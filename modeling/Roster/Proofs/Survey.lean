/-
Roster.Proofs.Survey — the half of a pass that only looks.

A pass first looks whether there is anything to do, and at what: `survey`
answers with the scope to decide on, or with nothing when the control
plane is to be left alone.  Then it acts on that scope (`reconcile_eq`).
So what holds of every step holds of every pass, and what a pass decided
on is the answer of its survey.
-/
import Roster.Proofs.Pass
import Roster.Reconcile
import Mathlib.Tactic.Common

namespace Roster

variable {σ : Type}

/-- What a pass decides on: nothing while the control plane is to be left
alone. -/
def survey (store : Store σ) (p : ControlPlane) : Pass σ (Option Scope) := do
  if p.metadata.deletionTimestamp.isSome then return none
  match p.spec.fault? p.displayName with
  | some e =>
    Pass.publish (p.faultReport e)
    return none
  | none =>
    match p.metadata.ownerName? Kind.cluster.name with
    | none => return none
    | some clusterName =>
      match ← Pass.call (store.getCluster p.ns clusterName) with
      | none => return none
      | some cluster =>
        if cluster.spec.paused then return none
        let machines ← Pass.call (store.listMachines p.ns clusterName)
        return some (Scope.ofMachines p cluster machines)

/-- The scope with another status of its control plane. -/
def Scope.withStatus (s : Scope) (status : Option ControlPlaneStatus) : Scope :=
  { s with controlPlane := { s.controlPlane with status := status } }

/-- `s` is the scope that a pass over `p` from `j` decides on. -/
def Decides (store : Store σ) (p : ControlPlane) (j : Journal σ) (s : Scope) : Prop :=
  (survey store p j).1 = .ok (some s)

/-- A scope is about the control plane that the pass is over. -/
theorem Decides.controlPlane_eq {store : Store σ} {p : ControlPlane} {j : Journal σ} {s : Scope}
    (h : Decides store p j s) : s.controlPlane = p := by
  have hsurvey : (survey store p).Ensures j (fun found _ => ∀ s ∈ found, s.controlPlane = p)
      fun _ _ => True := by
    unfold survey
    split
    · simp [Pass.ensures_pure]
    split
    · rw [Pass.ensures_bind, Pass.ensures_publish]
      simp [Pass.ensures_pure]
    split
    · simp [Pass.ensures_pure]
    next clusterName _ =>
      rw [Pass.ensures_bind, Pass.ensures_call]
      rcases store.getCluster p.ns clusterName j.store with ⟨e | found, after⟩
      · trivial
      cases found with
      | none => simp [Pass.ensures_pure]
      | some cluster =>
        dsimp only
        split
        · simp [Pass.ensures_pure]
        rw [Pass.ensures_bind, Pass.ensures_call]
        rcases store.listMachines p.ns clusterName after with ⟨e | machines, after'⟩
        · trivial
        · simp [Pass.ensures_pure, Scope.ofMachines]
  exact (Pass.ensures_iff.mp hsurvey).1 _ h s rfl

/-- A pass looks, and then advances what it looked at. -/
theorem reconcile_eq (setting : Setting σ) (now : Instant) (p : ControlPlane) :
    reconcile setting now p = (do
      match ← survey setting.store p with
      | none => return .await
      | some s => s.advance setting now) := by
  unfold reconcile survey
  split
  · simp
  cases p.spec.fault? p.displayName with
  | some e => simp
  | none =>
    cases p.metadata.ownerName? Kind.cluster.name with
    | none => simp
    | some clusterName =>
      simp only [bind_assoc]
      congr 1
      funext found
      cases found with
      | none => simp
      | some cluster =>
        dsimp only
        split <;> simp

end Roster
