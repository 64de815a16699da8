/-
Roster.Proofs.Rounds — passes over an undisturbed store, each followed by
a report that the new machine is healthy.

`Visit.turn_effect`: when all members are steady, a pass does to the
stored machines what was planned: a member joins, a member leaves, or
nothing changes.  Such a pass cannot fail.

A round is a pass and the report that follows it.  Only a machine that was
not stored before is reported on, so a round in which no member joins is
the pass alone (`Inventory.bringUp_eq_self`), and one in which a member
joins stores it as it was reported (`Inventory.bringUp_insert`).
-/
import Roster.Proofs.Conditions
import Roster.Proofs.Newcomer
import Roster.Proofs.Planning
import Roster.Proofs.Runs
import Roster.Proofs.Selection
import Roster.Proofs.Steps

namespace Roster

/-! ## A pass over an undisturbed store -/

namespace Scope

variable {s : Scope} {before after : Memory} {m : Machine} {backoff : Backoff} {draws : Draws}

/-- Whether a member should go: it is not as specified, or somebody asked to
remove it. -/
def isUnwanted (s : Scope) (m : Machine) : Bool := !s.controlPlane.isCurrent m || m.isMarked

/-- `after` is `before` without the member `m`; an unwanted member leaves if there
is any. -/
structure Leaves (s : Scope) (before : Inventory) (m : Machine) (after : Inventory) : Prop where
  mem : m ∈ s.members.toList
  unwanted : (∃ x ∈ s.members.toList, s.isUnwanted x = true) → s.isUnwanted m = true
  eq_erase : after = { before with machines := before.machines.erase m.identity }

/-- What the planned step does to what is stored. -/
def Effect (s : Scope) (draws : Draws) (before after : Inventory) : Prop :=
  match s.plan with
  | .found => ∃ m, s.Joins draws before m after
  | .grow => ∃ m, s.Joins draws before m after
  | .shrink _ => ∃ m, s.Leaves before m after
  | .stable => after = before

/-- A member joins when one is to be added. -/
theorem Undisturbed.addMember_ensures {j : Journal Memory} (h : s.Undisturbed j.store)
    {action created failedReason failed : String} :
    (s.addMember ⟨Memory.store, backoff, draws⟩ action created failedReason failed).Ensures j
      (fun _ j' => (∃ m, s.Joins draws j.store.inventory m j'.store.inventory) ∧
        j.store.RulesKept j'.store)
      fun _ _ => False := by
  rw [Scope.addMember_ensures]
  refine h.provision_ensures.mono (fun m j' hjoins => ⟨⟨m, hjoins.1⟩, hjoins.2⟩) ?_
  rintro halt j' ⟨⟩

/-- What a shrinking control plane selects is unwanted, if any member is. -/
theorem isUnwanted_of_select (hsteady : s.AllSteady) (hselect : s.select s.outdated = .ok m)
    (hany : ∃ x ∈ s.members.toList, s.isUnwanted x = true) : s.isUnwanted m = true := by
  obtain ⟨x, hx, hunwanted⟩ := hany
  have hwanted : ∃ x, x ∈ s.outdated.toList ∨ x ∈ s.members.toList ∧ x.isMarked = true := by
    rcases Bool.or_eq_true_iff.mp hunwanted with hold | hmarked
    · have hstays : x.isDeleting = false := (Machine.isSteady_iff.mp (hsteady x hx)).1
      refine ⟨x, .inl (Keyed.mem_filter.mpr ⟨hx, ?_⟩)⟩
      rw [hstays, Bool.not_false, Bool.true_and]
      exact hold
    · exact ⟨x, .inr ⟨hx, hmarked⟩⟩
  rcases mem_or_isMarked_of_select hwanted hselect with hold | hmarked
  · have hnot := (Keyed.mem_filter.mp hold).2
    rw [Bool.and_eq_true] at hnot
    exact Bool.or_eq_true_iff.mpr (.inl hnot.2)
  · exact Bool.or_eq_true_iff.mpr (.inr hmarked)

/-- A member leaves when one is to be removed. -/
theorem Undisturbed.shrink_ensures {j : Journal Memory} (h : s.Undisturbed j.store)
    (hmembers : s.members = j.store.inventory.machines.filter s.owns) (hsteady : s.AllSteady)
    (hsize : 0 < s.members.size) :
    (s.shrink ⟨Memory.store, backoff, draws⟩ s.outdated).Ensures j
      (fun _ j' => (∃ m, s.Leaves j.store.inventory m j'.store.inventory) ∧
        j.store.RulesKept j'.store)
      fun _ _ => False := by
  obtain ⟨x, hx⟩ := List.length_pos_iff_exists_mem.mp hsize
  obtain ⟨m, hselect⟩ := exists_select s.outdated hx
  have hm : m ∈ s.members.toList := mem_of_select (fun _ => outdated_subset) hselect
  have hstored : m ∈ j.store.inventory.machines.toList := by
    rw [hmembers] at hm
    exact (Keyed.mem_filter.mp hm).1
  have hpassed : s.preflight backoff [m] = .passed :=
    preflight_eq_passed_iff.mpr fun x hx _ => hsteady x hx
  have hallowed : j.store.refuses m.reference = false := by simp [Memory.refuses, h.allowed]
  rw [Scope.shrink_ensures, hselect]
  dsimp only
  rw [hpassed]
  simp only [Preflight.blocking]
  rw [Pass.ensures_call, shrinkNoted_store, checkNoted_store,
    Memory.delete_machine hstored hallowed]
  exact ⟨⟨m, hm, isUnwanted_of_select hsteady hselect, rfl⟩, rfl, rfl⟩

/-- The planned step of a control plane with steady members is taken. -/
theorem Undisturbed.step_ensures {j : Journal Memory} (h : s.Undisturbed j.store)
    (hmembers : s.members = j.store.inventory.machines.filter s.owns) (hsteady : s.AllSteady) :
    (s.step ⟨Memory.store, backoff, draws⟩).Ensures j
      (fun _ j' => s.Effect draws j.store.inventory j'.store.inventory ∧ j.store.RulesKept j'.store)
      fun _ _ => False := by
  have hcalled := s.callsFor_plan
  unfold Scope.step Scope.Effect
  cases hplan : s.plan with
  | found =>
    have hnone : j.store.inventory.machines.toList.filter s.owns = [] := by
      rw [hplan] at hcalled
      refine List.eq_nil_of_length_eq_zero (Eq.trans ?_ hcalled.1)
      rw [hmembers]
      rfl
    dsimp only
    rw [Scope.found_ensures, if_neg (by simp [h.allowed]), hnone]
    exact h.addMember_ensures
  | grow =>
    have hpassed : s.preflight backoff [] = .passed :=
      Scope.preflight_eq_passed_iff.mpr fun x hx _ => hsteady x hx
    dsimp only
    rw [Scope.grow_ensures, hpassed]
    exact h.addMember_ensures (j := s.growNoted (s.checkNoted backoff [] j))
  | shrink rollout =>
    rw [hplan] at hcalled
    obtain ⟨hsize, rfl⟩ := hcalled
    dsimp only
    rw [Scope.outdated_eq]
    exact h.shrink_ensures hmembers hsteady (by omega)
  | stable => exact ⟨rfl, rfl, rfl⟩

end Scope

/-- A pass over an undisturbed store does what was planned. -/
theorem Visit.turn_effect {v : Visit} {before : Memory} {s : Scope}
    (hscope : before.scope? v.controlPlane = some s) (hworld : s.Undisturbed before)
    (hmembers : s.members = before.inventory.machines.filter s.owns) (hsteady : s.AllSteady) :
    s.Effect v.draws before.inventory (v.turn before).after.inventory ∧
      before.RulesKept (v.turn before).after := by
  have hnoted : s.Undisturbed (before.note s v.now) :=
    hworld.of_rulesKept ⟨by simp, by simp⟩ (by simp)
  have hpass : v.pass.Ensures ⟨before, []⟩
      (fun _ j => s.Effect v.draws before.inventory j.store.inventory ∧ before.RulesKept j.store)
      fun _ _ => False := by
    unfold pass setting
    rw [Memory.reconcile_ensures]
    dsimp only
    rw [hscope]
    dsimp only
    rw [Memory.advance_ensures]
    refine (hnoted.step_ensures (j := ⟨before.note s v.now, []⟩) (by simpa using hmembers)
      hsteady).mono (fun _ j' heffect => ?_) fun _ _ => id
    exact ⟨by simpa using heffect.1, by simpa using heffect.2.pinned,
      by simpa using heffect.2.faults⟩
  have hturn := turn_of_ensures hpass
  cases hresult : (v.turn before).result with
  | ok action =>
    rw [hresult] at hturn
    exact hturn
  | error halt =>
    rw [hresult] at hturn
    exact hturn.elim

/-! ## The report that follows -/

/-- A machine whose agent is reported healthy. -/
def Machine.bringUp (now : Instant) (m : Machine) : Machine :=
  { m with status := some ⟨m.status.bind MachineStatus.phase,
      Condition.set (.holding now agentHealthy) m.conditions⟩ }

theorem Machine.isHealthy_bringUp (now : Instant) (m : Machine) :
    (m.bringUp now).isHealthy = true := by
  obtain ⟨since, hfound⟩ : ∃ since, (m.bringUp now).condition? agentHealthy =
      some { Condition.holding now agentHealthy with since := since } :=
    Condition.find?_set_self (.holding now agentHealthy) m.conditions
  rw [isHealthy, hfound]
  rfl

/-- The machines that are stored after a pass and were not before it. -/
def Inventory.newcomers (before after : Inventory) : List Machine :=
  after.machines.toList.filter fun m => !before.machines.has m

/-- What is stored once the new machines are reported healthy. -/
def Inventory.bringUp (now : Instant) (before after : Inventory) : Inventory :=
  (newcomers before after).foldl (fun inv m => inv.putMachine (m.bringUp now)) after

/-- The store after a pass and the report that follows it. -/
def Visit.round (v : Visit) (before : Memory) : Memory :=
  { (v.turn before).after with
    inventory := .bringUp v.now before.inventory (v.turn before).after.inventory }

/-- The store after so many rounds. -/
def rounds (visits : Nat → Visit) (start : Memory) : Nat → Memory
  | 0 => start
  | i + 1 => (visits i).round (rounds visits start i)

namespace Inventory

variable {before after : Inventory} {m : Machine}

/-- Nothing is reported when there is no machine that was not there before. -/
theorem bringUp_eq_self (now : Instant)
    (h : ∀ m ∈ after.machines.toList, before.machines.contains m.identity = true) :
    bringUp now before after = after := by
  have hnone : newcomers before after = [] :=
    List.filter_eq_nil_iff.mpr fun m hm => by simp [Members.has, h m hm]
  rw [bringUp, hnone]
  rfl

/-- A machine that is new is the one newcomer. -/
theorem newcomers_insert (hmachines : after.machines = before.machines.insert m)
    (hnew : before.machines.contains m.identity = false) : newcomers before after = [m] := by
  have hperm := (Keyed.perm_insert hnew).filter fun x => !before.machines.has x
  have hothers : before.machines.toList.filter (fun x => !before.machines.has x) = [] :=
    List.filter_eq_nil_iff.mpr fun x hx => by
      simpa [Members.has] using Keyed.contains_iff.mpr ⟨x, hx, rfl⟩
  rw [List.filter_cons_of_pos (by simpa [Members.has] using hnew), hothers] at hperm
  rw [newcomers, hmachines]
  exact List.perm_singleton.mp hperm

/-- A new machine is stored as it was reported. -/
theorem bringUp_insert (now : Instant) (hmachines : after.machines = before.machines.insert m)
    (hnew : before.machines.contains m.identity = false) :
    bringUp now before after = { after with
      machines := before.machines.insert (m.bringUp now) } := by
  have hsame : (m.bringUp now).identity = m.identity := rfl
  have hmachines' : after.machines.insert (m.bringUp now) =
      before.machines.insert (m.bringUp now) := by
    refine Keyed.ext_mem fun x => ?_
    rw [hmachines, Keyed.mem_insert, Keyed.mem_insert, Keyed.mem_insert, hsame]
    constructor
    · rintro (h | ⟨rfl | h, hne⟩)
      · exact .inl h
      · exact absurd rfl hne
      · exact .inr h
    · rintro (h | h)
      · exact .inl h
      · exact .inr ⟨.inr h, h.2⟩
  rw [bringUp, newcomers_insert hmachines hnew, List.foldl_cons, List.foldl_nil, putMachine,
    hmachines']

end Inventory

end Roster
