/-
Roster.Status — the status of a control plane as its members show it.
-/
import Roster.Preflight

namespace Roster

namespace Condition

/-- The condition that tells whether the control plane has a healthy member. -/
def available : String := "Available"

/-- The condition that tells whether the control plane has its size. -/
def resized : String := "Resized"

end Condition

/-- Whether a member is healthy. -/
def Machine.isHealthy (m : Machine) : Bool := (m.condition? agentHealthy).any Condition.isTrue

/-- A count in 32 bits; a larger one counts as the largest. -/
def replicaCount (n : Nat) : Int32 := Int32.ofNat (min n 2147483647)

/-- A count in decimal. -/
def replicaText (n : Int32) : String := String.ofList (Decimal.ofInt n.toInt)

namespace Scope

/-- Whether the control plane has a healthy member, as a condition. -/
def availability (now : Instant) (ready : Bool) : Condition :=
  if ready then .holding now Condition.available
  else .failing now Condition.available "WaitingForAvailableMachines" .info
    "no control plane Machine reports a healthy agent"

/-- Whether the control plane has its size, as a condition. -/
def convergence (now : Instant) (actual desired : Int32) : Condition :=
  let sizes : String :=
    " control plane to " ++ replicaText desired ++ " replicas (actual " ++ replicaText actual ++ ")"
  if actual = desired then .holding now Condition.resized
  else if actual < desired then
    .failing now Condition.resized "ScalingUp" .warning ("Scaling up" ++ sizes)
  else .failing now Condition.resized "ScalingDown" .warning ("Scaling down" ++ sizes)

/-- The status of a control plane at a moment.  Conditions of other types and
the mark that a member was ever healthy are carried over from the status
before. -/
def status (s : Scope) (now : Instant) : ControlPlaneStatus :=
  let previous := s.controlPlane.status.getD .empty
  let replicas := replicaCount s.members.size
  let healthy := replicaCount (s.members.filter Machine.isHealthy).size
  let ready : Bool := 0 < healthy
  {
    observedGeneration := s.controlPlane.metadata.generation
    replicas := replicas
    updatedReplicas := replicaCount s.current.size
    readyReplicas := healthy
    unavailableReplicas := replicas - healthy
    initialized := previous.initialized || ready
    ready := ready
    conditions := Condition.set (convergence now replicas (replicaCount s.desired))
      (Condition.set (availability now ready) previous.conditions)
  }

end Scope

end Roster
