/-
Roster.CommandLine.Settings — what the controller is started with.
-/
import Roster.CommandLine.Program
import Roster.Decimal.Reading
import Roster.Log
import Roster.Plan

namespace Roster

/-- What the controller is started with. -/
structure Settings where
  /-- Whether only the definition of control planes is to be printed. -/
  printsDefinition : Bool
  /-- The namespace to look after; all of them if there is none. -/
  watched : Option String
  logFormat : LogFormat
  /-- Seconds to wait while a member is being deleted. -/
  deletion : Nat
  /-- Seconds to wait while members are unhealthy. -/
  unhealthy : Nat
  /-- Seconds to wait when the next step should follow right away. -/
  soon : Nat
  /-- Seconds to wait after a failure that may pass. -/
  failure : Nat
  deriving DecidableEq, Repr

namespace Settings

/-- The usual settings. -/
def usual : Settings where
  printsDefinition := false
  watched := none
  logFormat := .usual
  deletion := 30
  unhealthy := 15
  soon := 1
  failure := 5

/-- How long to wait, in milliseconds. -/
def backoff (s : Settings) : Backoff :=
  ⟨s.deletion * 1000, s.unhealthy * 1000, s.soon * 1000, s.failure * 1000⟩

/-- The most seconds that can be asked for. -/
def mostSeconds : Nat := 18446744073709551615

/-- Set a form of log lines. -/
def setLogFormat (word : String) (s : Settings) : Except String Settings :=
  match LogFormat.read? word with
  | some format => .ok { s with logFormat := format }
  | none => .error (LogFormat.fault word)

/-- Set a number of seconds. -/
def setSeconds (set : Nat → Settings → Settings) (word : String) (s : Settings) :
    Except String Settings :=
  match Decimal.read mostSeconds word.toList with
  | .ok n => .ok (set n s)
  | .error misread => .error misread.message

end Settings

namespace CommandLine

/-- An option that is a number of seconds. -/
def secondsChoice (name word about : String) (usual : Settings → Nat)
    (set : Nat → Settings → Settings) : Choice Settings :=
  ⟨name, about, .value word ("RKE2CP_" ++ word)
    (some (String.ofList (Decimal.digits (usual Settings.usual)))) (Settings.setSeconds set)⟩

/-- The options of the controller. -/
def choices : List (Choice Settings) := [
  ⟨"crd", "Print the RKE2ControlPlane CRD manifest and exit",
    .switch fun s => { s with printsDefinition := true }⟩,
  ⟨"namespace", "Only watch this namespace (all namespaces when unset)",
    .value "NAMESPACE" "RKE2CP_WATCH_NAMESPACE" none fun name s =>
      .ok { s with watched := some name }⟩,
  ⟨"log-format", "Log output format (json or text)",
    .value "LOG_FORMAT" "RKE2CP_LOG_FORMAT" (some LogFormat.usual.word) Settings.setLogFormat⟩,
  secondsChoice "delete-requeue-secs" "DELETE_REQUEUE_SECS"
    "Seconds to wait while a control plane Machine is being deleted"
    Settings.deletion (fun n s => { s with deletion := n }),
  secondsChoice "preflight-requeue-secs" "PREFLIGHT_REQUEUE_SECS"
    "Seconds to wait after preflight checks fail"
    Settings.unhealthy (fun n s => { s with unhealthy := n }),
  secondsChoice "requeue-soon-secs" "REQUEUE_SOON_SECS"
    "Seconds before the follow-up pass after a Machine is created or deleted"
    Settings.soon (fun n s => { s with soon := n }),
  secondsChoice "error-requeue-secs" "ERROR_REQUEUE_SECS"
    "Seconds to wait after a retryable reconcile error"
    Settings.failure (fun n s => { s with failure := n }),
  ⟨"help", "Print help", .ending 'h' .help⟩,
  ⟨"version", "Print version", .ending 'V' .version⟩]

/-- The controller as a program. -/
def controller : Program Settings where
  name := Log.service
  version := Log.version
  about := "Controller binary reconciling RKE2ControlPlane resources"
  choices := choices
  usual := .usual

/-- The environment variables that the controller looks at. -/
def sources : List String :=
  choices.filterMap fun c =>
    match c.role with
    | .value _ source _ _ => some source
    | _ => none

end CommandLine

end Roster
