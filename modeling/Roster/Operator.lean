/-
Roster.Operator — a run of the controller from its command line on, as
far as it goes without a cluster.

A run that is asked a question answers it.  A run that prints the
definition of control planes ends there.  Any other run starts the log
and then needs a cluster to look after.
-/
import Roster.CommandLine.Settings
import Roster.Manifest.Definition
import Roster.Yaml

namespace Roster

/-- How a run ends. -/
structure Ending where
  /-- The exit status. -/
  status : UInt8
  /-- The lines written. -/
  output : List String
  /-- What the run complains about, if anything: a text of whole lines. -/
  complaint : Option String
  deriving DecidableEq, Repr

namespace Operator

/-- What a run without a cluster complains about. -/
def withoutCluster : String := "Error: Failed to create Kubernetes client\n"

/-- The end of a run whose command line gave no settings. -/
def stopped (environment : List (String × String)) (stop : CommandLine.Stop) : Ending :=
  let answer := Text.Terminal.written (CommandLine.controller.answer environment stop)
  if stop.fault?.isSome then ⟨2, [], some answer⟩ else ⟨0, Text.lines answer, none⟩

/-- The lines of the definition of control planes, followed by an empty one. -/
def definitionLines : List String := Yaml.lines Definition.controlPlane.manifest ++ [""]

/-- The end of a run that was started with settings. -/
def started (now : Instant) (settings : Settings) : Ending :=
  if settings.printsDefinition then ⟨0, definitionLines, none⟩
  else ⟨1, [Log.firstLine now settings.logFormat], some withoutCluster⟩

/-- A run without a cluster, given the moment it starts. -/
def run (now : Instant) (environment : List (String × String)) (words : List String) : Ending :=
  match CommandLine.controller.read environment words with
  | .ok settings => started now settings
  | .error stop => stopped environment stop

end Operator

end Roster
