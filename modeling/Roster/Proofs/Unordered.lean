/-
Roster.Proofs.Unordered — the order in which machines are listed does not
matter.

A watch cache hands machines out in any order, and in another one the next
time.  A scope keeps them in a set, and a set forgets how its values were
listed (`Keyed.ofList_eq_of_perm`).  So two listings of the same machines
give one scope (`Scope.ofMachines_eq_of_perm`), and no decision can tell them
apart: `Scope.decides_alike_in_any_order`.

Every machine has to be listed once.  Of two machines with one identity the
last one is kept, and which one that is depends on the order.
-/
import Roster.Proofs.Keyed
import Roster.Reconcile
import Roster.Sample

namespace Roster

namespace Scope

variable (p : ControlPlane) (cluster : Cluster) {machines shuffled : List Machine}

theorem ofMachines_eq_of_perm (hdistinct : (machines.map Machine.identity).Nodup)
    (hperm : shuffled.Perm machines) :
    ofMachines p cluster shuffled = ofMachines p cluster machines := by
  have hsame : (Keyed.ofList shuffled : Members) = Keyed.ofList machines :=
    Keyed.ofList_eq_of_perm hdistinct hperm
  rw [ofMachines, ofMachines, hsame]

/-- However the same machines are listed, the control plane plans the same
step, holds the same members to be outdated, removes the same one, places the
next one in the same domain, finds the same in every check and reports it in
the same words, and has the same status.  So the rest of the pass is the same
on every store. -/
theorem decides_alike_in_any_order (hdistinct : (machines.map Machine.identity).Nodup)
    (hperm : shuffled.Perm machines) :
    let s := ofMachines p cluster machines
    let s' := ofMachines p cluster shuffled
    s'.plan = s.plan ∧ s'.outdated = s.outdated ∧
      (∀ outdated, s'.select outdated = s.select outdated) ∧
      s'.nextDomain = s.nextDomain ∧
      (∀ backoff excluded, s'.preflight backoff excluded = s.preflight backoff excluded ∧
        (s'.preflight backoff excluded).report? s'.subject =
          (s.preflight backoff excluded).report? s.subject) ∧
      (∀ now, s'.status now = s.status now) ∧
      ∀ (σ : Type) (setting : Setting σ) now, s'.advance setting now = s.advance setting now := by
  intro s s'
  have hscope : s' = s := ofMachines_eq_of_perm p cluster hdistinct hperm
  rw [hscope]
  exact ⟨rfl, rfl, fun _ => rfl, rfl, fun _ _ => ⟨rfl, rfl⟩, fun _ => rfl, fun _ _ _ => rfl⟩

end Scope

/-- Two machines of the same age in one domain: the first by name has to go, also
when it is listed last. -/
theorem twins_leave_in_order :
    let machine (name : String) : Machine := Sample.machine (.ofSeconds Sample.epoch)
      (Sample.controlPlane "cp" 1) name (some "az-1") (.ofSeconds Sample.epoch)
    let scope (machines : List Machine) : Scope := .ofMachines (Sample.controlPlane "cp" 1)
      (Sample.cluster Sample.clusterName ["az-1"]) machines
    let twins := scope [machine "cp-a", machine "cp-b"]
    let reversed := scope [machine "cp-b", machine "cp-a"]
    reversed.plan = twins.plan ∧ reversed.select .empty = twins.select .empty ∧
      (twins.select .empty).toOption.map Machine.name = some "cp-a" := by
  intro machine scope twins reversed
  have hdistinct : ([machine "cp-a", machine "cp-b"].map Machine.identity).Nodup := by decide
  have hperm : [machine "cp-b", machine "cp-a"].Perm [machine "cp-a", machine "cp-b"] :=
    List.Perm.swap _ _ _
  obtain ⟨hplan, -, hselect, -⟩ := Scope.decides_alike_in_any_order
    (Sample.controlPlane "cp" 1) (Sample.cluster Sample.clusterName ["az-1"]) hdistinct hperm
  have hfirst : (twins.select .empty).toOption.map Machine.name = some "cp-a" := by
    decide +kernel
  exact ⟨hplan, hselect .empty, hfirst⟩

end Roster
