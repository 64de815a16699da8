/-
Roster.Event — reports on what happens to a control plane.
-/
import Roster.Object.Subject

namespace Roster

/-- A report about an object. -/
structure Event where
  /-- Whether something is wrong. -/
  warning : Bool
  /-- Why the report is made, in one word. -/
  reason : String
  /-- What was being done, in one word. -/
  action : String
  /-- The report in full. -/
  note : Option String
  /-- What the report is about. -/
  subject : Subject
  deriving DecidableEq, Repr

namespace Event

/-- The word for the kind of report. -/
def type (e : Event) : String := if e.warning then "Warning" else "Normal"

/-! ## Reasons -/

/-- The first member could not be created. -/
def failedInitialization : String := "FailedInitialization"
/-- A further member could not be created. -/
def failedScaleUp : String := "FailedScaleUp"
/-- A member could not be deleted. -/
def failedScaleDown : String := "FailedScaleDown"
/-- Members are unhealthy. -/
def controlPlaneUnhealthy : String := "ControlPlaneUnhealthy"
/-- A member was created. -/
def machineCreated : String := "MachineCreated"
/-- A member was deleted. -/
def machineDeleted : String := "MachineDeleted"
/-- A member is about to be added. -/
def scalingUp : String := "ScalingUp"
/-- A member is about to be removed. -/
def scalingDown : String := "ScalingDown"
/-- The specification breaks a rule. -/
def validationFailed : String := "ValidationFailed"

/-! ## Actions -/

/-- Looking at the control plane. -/
def reconciling : String := "Reconcile"
/-- Creating the first member. -/
def initializing : String := "Initialize"
/-- Adding or removing members. -/
def scaling : String := "Scale"
/-- Checking the members before a step. -/
def checking : String := "Preflight"

end Event

end Roster
