/-
Roster.Reconcile — one pass over a control plane.

A pass does nothing at all while the control plane is being deleted, its
specification breaks a rule (which is reported), it has no owning
cluster, or the cluster is missing or paused.  Otherwise it writes the
status, if that changed, and takes one step.
-/
import Roster.Scaling
import Roster.Status

namespace Roster

variable {σ : Type}

/-- The report about a specification that breaks a rule. -/
def ControlPlane.faultReport (p : ControlPlane) (e : Error) : Event where
  warning := true
  reason := Event.validationFailed
  action := Event.reconciling
  note := some e.message
  subject := p.subject

/-- Write the status of a control plane if it changed, and take a step. -/
def Scope.advance (s : Scope) (setting : Setting σ) (now : Instant) : Pass σ Action := do
  let status := s.status now
  if s.controlPlane.status ≠ some status then
    Pass.call (setting.store.patchStatus s.controlPlane status)
  let outcome ← s.step setting
  return outcome.action setting.backoff

/-- One pass over a control plane. -/
def reconcile (setting : Setting σ) (now : Instant) (p : ControlPlane) : Pass σ Action := do
  if p.metadata.deletionTimestamp.isSome then return .await
  match p.spec.fault? p.displayName with
  | some e =>
    Pass.publish (p.faultReport e)
    return .await
  | none =>
    match p.metadata.ownerName? Kind.cluster.name with
    | none => return .await
    | some clusterName =>
      match ← Pass.call (setting.store.getCluster p.ns clusterName) with
      | none => return .await
      | some cluster =>
        if cluster.spec.paused then return .await
        let machines ← Pass.call (setting.store.listMachines p.ns clusterName)
        (Scope.ofMachines p cluster machines).advance setting now

end Roster
