/-
Roster.Members.Filter — what the decisions about a control plane ask of
a machine: whose it is, where it is, and whether it is as specified.
-/
import Roster.Labels
import Roster.Members.Basic
import Roster.Object.ControlPlane
import Roster.Release

namespace Roster

namespace Machine

/-- Whether somebody asked for the machine to be removed first. -/
def isMarked (m : Machine) : Bool := (m.annotation? Labels.deleteMachine).isSome

/-- Whether the machine is placed in one of the domains. -/
def isWithin (domains : List String) (m : Machine) : Bool :=
  match m.failureDomain with
  | some domain => domains.contains domain
  | none => false

/-- Whether the machine runs the version of a release.  A machine without a
version runs none. -/
def runs (release : String) (m : Machine) : Bool :=
  m.spec.version == some (Release.version release)

/-- Whether the machine was made from the given server settings.  A machine
that does not record its settings is taken to be, one whose record cannot
be read is not. -/
def wasMadeFrom (config : ServerConfig) (m : Machine) : Bool :=
  match m.annotation? Labels.serverConfiguration with
  | none => true
  | some text => ServerConfig.ofSnapshot? text == some config

end Machine

namespace ControlPlane

/-- Whether a control plane manages a machine. -/
def manages (p : ControlPlane) (m : Machine) : Bool :=
  match p.metadata.uid with
  | some uid => m.metadata.isControlledBy Kind.controlPlane.name uid
  | none => false

/-- Whether a machine is as the control plane specifies: release and server
settings. -/
def isCurrent (p : ControlPlane) (m : Machine) : Bool :=
  m.runs p.spec.version && m.wasMadeFrom p.spec.serverConfig

end ControlPlane

end Roster
