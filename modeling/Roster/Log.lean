/-
Roster.Log — how the controller writes its log.
-/
import Roster.Json.Print
import Roster.Text.Lowercase
import Roster.Text.Quoted
import Roster.Time.Rfc3339

namespace Roster

/-- The form of log lines. -/
inductive LogFormat where
  /-- One JSON object a line. -/
  | json
  /-- Lines for people. -/
  | text
  deriving DecidableEq, Repr

namespace LogFormat

/-- The word for a form. -/
def word : LogFormat → String
  | .json => "json"
  | .text => "text"

/-- The form a word names, in letters of any case. -/
def read? (s : String) : Option LogFormat :=
  let lower := Text.lowercase s
  if lower = "json" then some .json else if lower = "text" then some .text else none

/-- What is wrong with a word that names no form. -/
def fault (s : String) : String :=
  "invalid log format '" ++ Text.lowercase s ++ "': expected 'json' or 'text'"

/-- The form of a controller that is not told another. -/
def usual : LogFormat := .json

end LogFormat

namespace Log

/-- What is logged when nothing else is asked for: from which level on, by
source. -/
def usualFilter : String := "info,rke2cp=debug,kube=info,tower=warn,hyper=warn"

/-- The name under which the controller logs. -/
def service : String := "rke2cp-operator"

/-- The version of the controller. -/
def version : String := "0.1.0"

/-- Why a second log cannot be started. -/
def alreadyStarted : String :=
  "failed to initialize tracing subscriber: a global default trace dispatcher has already been set"

/-! ## Lines -/

/-- The part of the controller that starts the log. -/
def starter : String := "rke2cp_common::telemetry"

/-- The first entry, in words. -/
def started : String := "telemetry initialized"

/-- The first line, written at a moment. -/
def firstLine (now : Instant) : LogFormat → String
  | .json => Json.compact (.object [("timestamp", .text now.renderMicros),
      ("level", .text "INFO"),
      ("fields", .object [("message", .text started), ("service", .text service),
        ("format", .text LogFormat.json.word), ("version", .text version)]),
      ("target", .text starter)])
  | .text => now.renderMicros ++ "  INFO " ++ starter ++ ": " ++ started ++
      " service=" ++ service ++ " format=" ++ LogFormat.text.word ++
      " version=" ++ Text.quoted version

end Log

end Roster
