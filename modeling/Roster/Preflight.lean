/-
Roster.Preflight — the check before every step that changes the
membership.

A control plane is stable when no member is being deleted and every
member is healthy.  An unstable control plane is not a failure: the step
waits.  Members about to be removed are left out, so that a member cannot
stand in the way of its own removal.
-/
import Roster.Decimal.Digits
import Roster.Event
import Roster.Plan

namespace Roster

/-- The condition that tells whether a member's agent is healthy. -/
def agentHealthy : String := "AgentHealthy"

/-- The conditions that have to hold of every member. -/
def requiredConditions : List String := [agentHealthy]

/-- Why a condition does not hold of a machine, if it does not. -/
def Machine.conditionFault? (kind : String) (m : Machine) (type : String) : Option Error :=
  let fault (detail : String) : Option Error := some (.conditionCheck kind m.name type detail)
  match m.condition? type with
  | none => fault ("does not have " ++ type ++ " condition")
  | some c =>
    let message := c.message.getD ""
    match c.status with
    | .holds => none
    | .fails =>
      let severity := match c.severity with
        | some s => s.word
        | none => ""
      fault ("reports " ++ type ++ " condition is false (" ++ severity ++ ", " ++ message ++ ")")
    | .unknown => fault ("reports " ++ type ++ " condition is unknown (" ++ message ++ ")")

/-- What the check found. -/
inductive Preflight where
  /-- The step may be taken. -/
  | passed
  /-- Members are being deleted. -/
  | waitingForDeletion (names : List String) (ms : Nat)
  /-- Members are unhealthy, for one reason or more. -/
  | unhealthy (first : Error) (others : List Error) (ms : Nat)

namespace Preflight

/-- How the step ends instead, if it may not be taken. -/
def blocking : Preflight → Option Outcome
  | .passed => none
  | .waitingForDeletion _ ms => some (.after ms)
  | .unhealthy _ _ ms => some (.after ms)

/-- The faults of unhealthy members in words. -/
def faultText (first : Error) (others : List Error) : String :=
  (Error.aggregate first others).message

/-- The report about unhealthy members. -/
def report? (subject : Subject) : Preflight → Option Event
  | .unhealthy first others _ =>
    some {
      warning := true
      reason := Event.controlPlaneUnhealthy
      action := Event.checking
      note := some
        ("Waiting for control plane to pass preflight checks to continue reconciliation: " ++
          faultText first others)
      subject := subject }
  | _ => none

/-- The faults of machines, in order. -/
def faults (machines : List Machine) : List Error :=
  machines.flatMap fun m => requiredConditions.filterMap (m.conditionFault? "machine")

end Preflight

/-- Check the members other than the excluded ones. -/
def Scope.preflight (s : Scope) (backoff : Backoff) (excluded : List Machine) : Preflight :=
  let excluded : Members := .ofList excluded
  let checked : Members := s.members.filter fun m => !excluded.has m
  if !checked.deleting.isEmpty then
    .waitingForDeletion checked.deleting.names backoff.deletion
  else
    match Preflight.faults checked.toList with
    | [] => .passed
    | first :: others => .unhealthy first others backoff.unhealthy

end Roster
