/-
Roster.Scaling — the steps that change the membership of a control plane.

Nothing is remembered between passes: every step looks at a scope taken
anew and creates or deletes one member at most.
-/
import Roster.Preflight
import Roster.Provision.Attempt

namespace Roster

variable {σ : Type}

/-- What a pass works with: the store, the times to wait and the random
suffixes. -/
structure Setting (σ : Type) where
  store : Store σ
  backoff : Backoff
  draws : Draws

namespace Scope

/-- Report on the control plane. -/
def report (s : Scope) (warning : Bool) (reason action note : String) : Pass σ Unit :=
  Pass.publish ⟨warning, reason, action, some note, s.subject⟩

/-- Check the members other than the excluded ones and report what is wrong. -/
def check (s : Scope) (backoff : Backoff) (excluded : List Machine) : Pass σ Preflight := do
  let verdict := s.preflight backoff excluded
  match verdict.report? s.subject with
  | some event => Pass.publish event
  | none => pure ()
  return verdict

/-- The cluster in words. -/
def clusterText (s : Scope) : String := s.ns ++ "/" ++ s.clusterName

/-- Create a member for an action, reporting how it went. -/
def addMember (s : Scope) (setting : Setting σ) (action created failedReason failed : String) :
    Pass σ Outcome := do
  match ← Pass.attempt
    (s.provision setting.store setting.draws s.controlPlane.spec.agentConfig s.nextDomain) with
  | .ok machine =>
    s.report false Event.machineCreated action (created ++ machine.name)
    return .soon
  | .error e =>
    s.report true failedReason action
      (failed ++ " for cluster " ++ s.clusterText ++ " control plane: " ++ e.message)
    Pass.fail e

/-- Create the first member.  That there is none yet is asked of the source
first: a second first member would found a second cluster. -/
def found (s : Scope) (setting : Setting σ) : Pass σ Outcome := do
  let listed ← Pass.call (setting.store.listMachinesUncached s.ns s.clusterName)
  let owned := (listed.filter s.controlPlane.manages).length
  if 0 < owned then
    Pass.fail (.invariant "initialize"
      ("control plane has already been initialized, found " ++
        String.ofList (Decimal.digits owned) ++ " owned machine for cluster " ++ s.clusterText ++
        ": controller cache or management cluster is misbehaving"))
  else
    s.addMember setting Event.initializing "Created initial control plane Machine "
      Event.failedInitialization "Failed to create initial control plane Machine"

/-- Add a member, if the control plane is stable. -/
def grow (s : Scope) (setting : Setting σ) : Pass σ Outcome := do
  match (← s.check setting.backoff []).blocking with
  | some wait => return wait
  | none =>
    s.report false Event.scalingUp Event.scaling
      ("Scaling up control plane from " ++ String.ofList (Decimal.digits s.members.size) ++
        " to " ++ String.ofList (Decimal.digits s.desired) ++ " replicas")
    s.addMember setting Event.scaling "Created control plane Machine "
      Event.failedScaleUp "Failed to create additional control plane Machine"

/-- Remove a member, if the rest of the control plane is stable. -/
def shrink (s : Scope) (setting : Setting σ) (outdated : Members) : Pass σ Outcome := do
  match s.select outdated with
  | .error e => Pass.fail (e.wrap "failed to select machine for scale down")
  | .ok candidate =>
    match (← s.check setting.backoff [candidate]).blocking with
    | some wait => return wait
    | none =>
      s.report false Event.scalingDown Event.scaling
        ("Removing control plane Machine " ++ candidate.name)
      match ← Pass.attempt (Pass.call (setting.store.delete candidate.reference)) with
      | .ok () =>
        s.report false Event.machineDeleted Event.scaling
          ("Deleted control plane Machine " ++ candidate.name)
        return .soon
      | .error e =>
        if e.isNotFound then return .soon
        else
          s.report true Event.failedScaleDown Event.scaling
            ("Failed to delete control plane Machine " ++ candidate.name ++ " for cluster " ++
              s.clusterText ++ " control plane: " ++ e.message)
          Pass.fail (e.wrap ("failed to delete control plane Machine " ++ candidate.name))

/-- Take the planned step. -/
def step (s : Scope) (setting : Setting σ) : Pass σ Outcome :=
  match s.plan with
  | .found => s.found setting
  | .grow => s.grow setting
  | .shrink rollout => s.shrink setting (if rollout then s.outdated else .empty)
  | .stable => return .done

end Scope

end Roster
