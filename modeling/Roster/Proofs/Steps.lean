/-
Roster.Proofs.Steps — what every step does, up to the calls it makes.

One rule for every step, an equivalence as those for passes: the step
checks and reports, and then creates or deletes one member at most.  How
these calls end is left to the store; only founding, which has to ask the
source first, is told for a store in memory.
-/
import Roster.Proofs.MemoryPass
import Roster.Proofs.Preflight
import Roster.Scaling

namespace Roster.Scope

section Rules

variable {σ : Type} {s : Scope} {setting : Setting σ} {j : Journal σ}
  {ok : Outcome → Journal σ → Prop} {halt : Halt → Journal σ → Prop}

/-- The journal with a report on the control plane. -/
def noted (s : Scope) (j : Journal σ) (warning : Bool) (reason action note : String) :
    Journal σ :=
  { j with events := j.events ++ [⟨warning, reason, action, some note, s.subject⟩] }

@[simp] theorem noted_store {warning : Bool} {reason action note : String} :
    (s.noted j warning reason action note).store = j.store := rfl

/-- The journal with the report that a check makes. -/
def checkNoted (s : Scope) (backoff : Backoff) (excluded : List Machine) (j : Journal σ) :
    Journal σ :=
  { j with events := j.events ++ ((s.preflight backoff excluded).report? s.subject).toList }

@[simp] theorem checkNoted_store {backoff : Backoff} {excluded : List Machine} :
    (s.checkNoted backoff excluded j).store = j.store := rfl

theorem report_ensures {warning : Bool} {reason action note : String}
    {ok : Unit → Journal σ → Prop} :
    (s.report warning reason action note).Ensures j ok halt ↔
      ok () (s.noted j warning reason action note) := Iff.rfl

theorem check_ensures {backoff : Backoff} {excluded : List Machine}
    {ok : Preflight → Journal σ → Prop} :
    (s.check backoff excluded).Ensures j ok halt ↔
      ok (s.preflight backoff excluded) (s.checkNoted backoff excluded j) := by
  unfold check checkNoted
  dsimp only
  cases (s.preflight backoff excluded).report? s.subject with
  | none => simp [Pass.ensures_pure]
  | some event =>
    rw [Pass.ensures_bind, Pass.ensures_publish]
    rfl

/-- A member is created and reported, or the failure is. -/
theorem addMember_ensures {action created failedReason failed : String} :
    (s.addMember setting action created failedReason failed).Ensures j ok halt ↔
      (s.provision setting.store setting.draws s.controlPlane.spec.agentConfig
        s.nextDomain).Ensures j
        (fun m j' => ok .soon (s.noted j' false Event.machineCreated action (created ++ m.name)))
        fun
          | .failed e, j' => halt (.failed e) (s.noted j' true failedReason action
              (failed ++ " for cluster " ++ s.clusterText ++ " control plane: " ++ e.message))
          | .aborted, j' => halt .aborted j' := by
  unfold addMember
  rw [Pass.ensures_bind, Pass.ensures_attempt]
  rfl

/-- The journal with the report that a control plane is about to grow. -/
def growNoted (s : Scope) (j : Journal σ) : Journal σ :=
  s.noted j false Event.scalingUp Event.scaling
    ("Scaling up control plane from " ++ String.ofList (Decimal.digits s.members.size) ++
      " to " ++ String.ofList (Decimal.digits s.desired) ++ " replicas")

@[simp] theorem growNoted_store : (s.growNoted j).store = j.store := rfl

/-- A control plane grows when all members are steady. -/
theorem grow_ensures :
    (s.grow setting).Ensures j ok halt ↔
      match (s.preflight setting.backoff []).blocking with
      | some wait => ok wait (s.checkNoted setting.backoff [] j)
      | none =>
        (s.addMember setting Event.scaling "Created control plane Machine "
          Event.failedScaleUp "Failed to create additional control plane Machine").Ensures
          (s.growNoted (s.checkNoted setting.backoff [] j)) ok halt := by
  unfold grow
  rw [Pass.ensures_bind, check_ensures]
  cases (s.preflight setting.backoff []).blocking with
  | some wait => rfl
  | none =>
    dsimp only
    rw [Pass.ensures_bind, report_ensures]
    rfl

/-- The journal with the report that a member is about to be removed. -/
def shrinkNoted (s : Scope) (m : Machine) (j : Journal σ) : Journal σ :=
  s.noted j false Event.scalingDown Event.scaling ("Removing control plane Machine " ++ m.name)

@[simp] theorem shrinkNoted_store {m : Machine} : (s.shrinkNoted m j).store = j.store := rfl

/-- A control plane shrinks when all members are steady but the one to remove.
That this one is gone already is fine. -/
theorem shrink_ensures {outdated : Members} :
    (s.shrink setting outdated).Ensures j ok halt ↔
      match s.select outdated with
      | .error e => halt (.failed (e.wrap "failed to select machine for scale down")) j
      | .ok m =>
        match (s.preflight setting.backoff [m]).blocking with
        | some wait => ok wait (s.checkNoted setting.backoff [m] j)
        | none =>
          (Pass.call (setting.store.delete m.reference)).Ensures
            (s.shrinkNoted m (s.checkNoted setting.backoff [m] j))
            (fun _ j' => ok .soon (s.noted j' false Event.machineDeleted Event.scaling
              ("Deleted control plane Machine " ++ m.name)))
            fun
              | .failed e, j' =>
                if e.isNotFound then ok .soon j'
                else halt (.failed (e.wrap ("failed to delete control plane Machine " ++ m.name)))
                  (s.noted j' true Event.failedScaleDown Event.scaling
                    ("Failed to delete control plane Machine " ++ m.name ++ " for cluster " ++
                      s.clusterText ++ " control plane: " ++ e.message))
              | .aborted, j' => halt .aborted j' := by
  unfold shrink
  cases s.select outdated with
  | error e => rfl
  | ok m =>
    dsimp only
    rw [Pass.ensures_bind, check_ensures]
    cases (s.preflight setting.backoff [m]).blocking with
    | some wait => rfl
    | none =>
      dsimp only
      rw [Pass.ensures_bind, report_ensures, Pass.ensures_bind, Pass.ensures_attempt]
      refine iff_of_eq (congrArg _ (funext fun reason => funext fun j' => ?_))
      cases reason with
      | aborted => rfl
      | failed e =>
        dsimp only
        split <;> rfl

end Rules

/-! ## Founding in memory -/

variable {s : Scope} {j : Journal Memory} {backoff : Backoff} {draws : Draws}
  {halt : Halt → Journal Memory → Prop}

/-- The failure of founding a cluster that has `n` members. -/
def foundedAlready (s : Scope) (n : Nat) : Error :=
  .invariant "initialize" ("control plane has already been initialized, found " ++
    String.ofList (Decimal.digits n) ++ " owned machine for cluster " ++ s.clusterText ++
    ": controller cache or management cluster is misbehaving")

/-- The first member is created when the source answers that there is none. -/
theorem found_ensures {ok : Outcome → Journal Memory → Prop} :
    (s.found ⟨Memory.store, backoff, draws⟩).Ensures j ok halt ↔
      if .listUncached ∈ j.store.faults then
        halt (.failed (j.store.faultError .listUncached)) j
      else if 0 < (j.store.inventory.machines.toList.filter s.owns).length then
        halt (.failed (s.foundedAlready
          (j.store.inventory.machines.toList.filter s.owns).length)) j
      else
        (s.addMember ⟨Memory.store, backoff, draws⟩ Event.initializing
          "Created initial control plane Machine " Event.failedInitialization
          "Failed to create initial control plane Machine").Ensures j ok halt := by
  have howned : (j.store.inventory.machinesOf s.ns s.clusterName).filter s.controlPlane.manages =
      j.store.inventory.machines.toList.filter s.owns := by
    rw [Inventory.machinesOf, List.filter_filter]
    exact List.filter_congr fun m _ => Bool.and_comm ..
  unfold found
  rw [Pass.ensures_bind, Pass.ensures_call, Memory.listMachinesUncached_eq]
  by_cases hfault : Fault.listUncached ∈ j.store.faults
  · rw [if_pos hfault, if_pos hfault]
  · rw [if_neg hfault, if_neg hfault]
    dsimp only
    rw [howned, Pass.ensures_ite, Pass.ensures_fail]
    split <;> simp_all [foundedAlready]

end Roster.Scope
