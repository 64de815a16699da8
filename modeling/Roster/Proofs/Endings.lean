/-
Roster.Proofs.Endings — every way a pass over a store in memory can end.

`Scope.StepEnds` lists the ways a step ends, each with what called for it
and with the store it leaves; `step_ends` says that there are no others.
`Visit.outcome?` is how the step of a pass ended, and `Visit.turn_ends` says
that the pass ended with it.

What holds of every pass is then a case analysis, and nothing further has
to be taken apart.
-/
import Roster.Proofs.Planning
import Roster.Proofs.Provisioning
import Roster.Proofs.Runs
import Roster.Proofs.Selection
import Roster.Proofs.Steps

namespace Roster

namespace Scope

variable {s : Scope} {backoff : Backoff} {draws : Draws}

/-- The step gets as far as creating a member: the source answers that there is
none yet, or all members pass the check. -/
def Attempts (s : Scope) (backoff : Backoff) (before : Memory) : Prop :=
  s.plan = .found ∧ .listUncached ∉ before.faults ∧
      (∀ m ∈ before.inventory.machines.toList, s.owns m = false) ∨
    s.plan = .grow ∧ s.preflight backoff [] = .passed

theorem Attempts.adds {before : Memory} (h : s.Attempts backoff before) : s.plan.adds = true := by
  obtain ⟨hplan, -⟩ | ⟨hplan, -⟩ := h <;> rw [hplan] <;> rfl

/-- How a step ends that finds the store `before`, and the store it leaves. -/
inductive StepEnds (s : Scope) (backoff : Backoff) (draws : Draws) (before : Memory) :
    Except Halt Outcome → Memory → Prop where
  /-- There is nothing to do. -/
  | rests (hplan : s.plan = .stable) : StepEnds s backoff draws before (.ok .done) before
  /-- Members have to settle first, the one to remove aside. -/
  | waits {excluded : List Machine} {wait : Outcome}
      (hexcluded : s.plan = .grow ∧ excluded = [] ∨
        ∃ m, s.select s.outdated = .ok m ∧ excluded = [m])
      (hblocked : (s.preflight backoff excluded).blocking = some wait) :
    StepEnds s backoff draws before (.ok wait) before
  /-- A member was created. -/
  | joins {m : Machine} {after : Memory} (hattempts : s.Attempts backoff before)
      (h : s.Provisions draws s.controlPlane.spec.agentConfig s.nextDomain before m after) :
    StepEnds s backoff draws before (.ok .soon) after
  /-- A member could not be created. -/
  | fails {made : List Item} {halt : Halt} {after : Memory} (hattempts : s.Attempts backoff before)
      (h : s.ProvisionFails draws s.controlPlane.spec.agentConfig s.nextDomain before made halt
        after) :
    StepEnds s backoff draws before (.error halt) after
  /-- The source could not be asked whether there is a first member. -/
  | unasked (hplan : s.plan = .found) (h : .listUncached ∈ before.faults) :
    StepEnds s backoff draws before (.error (.failed (before.faultError .listUncached))) before
  /-- The source knows of members that were not seen. -/
  | founded {n : Nat} (hplan : s.plan = .found) (hpos : 0 < n)
      (h : (before.inventory.machines.toList.filter s.owns).length = n)
      (hallowed : .listUncached ∉ before.faults) :
    StepEnds s backoff draws before (.error (.failed (s.foundedAlready n))) before
  /-- A member was deleted. -/
  | leaves {m : Machine} {after : Memory} (hsize : s.desired < s.members.size)
      (hselect : s.select s.outdated = .ok m)
      (hanswer : Memory.store.delete m.reference before = (.ok (), after)) :
    StepEnds s backoff draws before (.ok .soon) after
  /-- The member to delete was gone already, or is said to be. -/
  | gone {m : Machine} {e : Error} (hsize : s.desired < s.members.size)
      (hselect : s.select s.outdated = .ok m)
      (hanswer : Memory.store.delete m.reference before = (.error e, before))
      (hgone : e.isNotFound = true) :
    StepEnds s backoff draws before (.ok .soon) before
  /-- A member could not be deleted. -/
  | refused {m : Machine} {e : Error} (hsize : s.desired < s.members.size)
      (hselect : s.select s.outdated = .ok m)
      (hanswer : Memory.store.delete m.reference before = (.error e, before))
      (hfound : e.isNotFound = false) :
    StepEnds s backoff draws before
      (.error (.failed (e.wrap ("failed to delete control plane Machine " ++ m.name)))) before

/-- A step leaves alone what passes only look at. -/
theorem StepEnds.backdrop_eq {before after : Memory} {ended : Except Halt Outcome}
    (h : s.StepEnds backoff draws before ended after) : after.backdrop = before.backdrop := by
  cases h with
  | joins _ hprovisions =>
    obtain ⟨-, -, -⟩ := hprovisions
    rfl
  | fails _ hfails =>
    cases hfails with
    | settings => exact Memory.clear_backdrop _ _
    | machine => exact Memory.clear_backdrop _ _
    | _ => rfl
  | @leaves m _ _ _ hanswer =>
    have hdeleted := Memory.delete_backdrop m.reference before
    rw [hanswer] at hdeleted
    exact hdeleted
  | _ => rfl

section Steps

variable {j : Journal Memory}

theorem addMember_ends {action created failedReason failed : String}
    (hattempts : s.Attempts backoff j.store) :
    (s.addMember ⟨Memory.store, backoff, draws⟩ action created failedReason failed).Ensures j
      (fun outcome j' => s.StepEnds backoff draws j.store (.ok outcome) j'.store)
      fun halt j' => s.StepEnds backoff draws j.store (.error halt) j'.store := by
  rw [addMember_ensures]
  refine provision_ensures.mono ?_ ?_
  · rintro m j' ⟨hprovisions, -⟩
    exact .joins hattempts hprovisions
  · rintro (e | _) j' ⟨⟨made, hfails⟩, -⟩ <;> exact .fails hattempts hfails

theorem shrink_ends (hsize : s.desired < s.members.size) :
    (s.shrink ⟨Memory.store, backoff, draws⟩ s.outdated).Ensures j
      (fun outcome j' => s.StepEnds backoff draws j.store (.ok outcome) j'.store)
      fun halt j' => s.StepEnds backoff draws j.store (.error halt) j'.store := by
  obtain ⟨x, hx⟩ := List.length_pos_iff_exists_mem.mp (Nat.zero_lt_of_lt hsize)
  obtain ⟨m, hselect⟩ := exists_select s.outdated hx
  rw [shrink_ensures, hselect]
  dsimp only
  split
  next wait hblocked => exact .waits (.inr ⟨m, hselect, rfl⟩) hblocked
  next =>
    rw [Pass.ensures_call]
    simp only [shrinkNoted_store, checkNoted_store]
    rcases hanswer : Memory.store.delete m.reference j.store with ⟨e | _, after⟩
    · obtain rfl := Memory.eq_of_delete_eq_error hanswer
      dsimp only
      split
      next hgone => exact .gone hsize hselect hanswer hgone
      next hfound => exact .refused hsize hselect hanswer (by simpa using hfound)
    · exact .leaves hsize hselect hanswer

/-- A step ends in one of these ways. -/
theorem step_ends :
    (s.step ⟨Memory.store, backoff, draws⟩).Ensures j
      (fun outcome j' => s.StepEnds backoff draws j.store (.ok outcome) j'.store)
      fun halt j' => s.StepEnds backoff draws j.store (.error halt) j'.store := by
  have hcalled := s.callsFor_plan
  unfold step
  cases hplan : s.plan with
  | found =>
    dsimp only
    rw [found_ensures]
    split
    next hfault => exact .unasked hplan hfault
    next hallowed =>
      split
      next hpos => exact .founded hplan hpos rfl hallowed
      next hnone =>
        have hforeign : ∀ m ∈ j.store.inventory.machines.toList, s.owns m = false := by
          simpa using hnone
        exact addMember_ends (.inl ⟨hplan, hallowed, hforeign⟩)
  | grow =>
    dsimp only
    rw [grow_ensures]
    split
    next wait hblocked => exact .waits (.inl ⟨hplan, rfl⟩) hblocked
    next hclear =>
      exact addMember_ends (j := s.growNoted (s.checkNoted backoff [] j))
        (.inr ⟨hplan, Preflight.blocking_eq_none_iff.mp hclear⟩)
  | shrink rollout =>
    rw [hplan] at hcalled
    obtain ⟨hsize, rfl⟩ := hcalled
    dsimp only
    rw [outdated_eq]
    exact shrink_ends hsize
  | stable => exact .rests hplan

end Steps

end Scope

/-! ## A whole pass -/

namespace Visit

variable {v : Visit} {before : Memory} {s : Scope}

/-- How the step of a pass ended; nothing for a pass that leaves the control
plane alone. -/
def outcome? (v : Visit) (before : Memory) : Option (Except Halt Outcome) :=
  (before.scope? v.controlPlane).map fun s => (s.step v.setting ⟨before.note s v.now, []⟩).1

/-- A pass that decides on nothing says why, if there is something wrong. -/
theorem pass_of_scope?_eq_none (h : before.scope? v.controlPlane = none) :
    v.pass ⟨before, []⟩ = (.ok .await, ⟨before, v.controlPlane.objections⟩) :=
  Memory.reconcile_of_scope?_eq_none h

/-- A pass that decides on nothing leaves the store as it is. -/
theorem turn_of_scope?_eq_none (h : before.scope? v.controlPlane = none) :
    (v.turn before).result = .ok .await ∧ (v.turn before).after = before := by
  have hpass := pass_of_scope?_eq_none h
  exact ⟨congrArg Prod.fst hpass, congrArg (fun ended => ended.2.store) hpass⟩

/-- A pass that decides on a scope writes the status and takes the step. -/
theorem pass_of_scope? (h : before.scope? v.controlPlane = some s) :
    v.pass ⟨before, []⟩ =
      ((s.step v.setting ⟨before.note s v.now, []⟩).1.map (Outcome.action v.backoff),
        (s.step v.setting ⟨before.note s v.now, []⟩).2) := by
  refine Prod.ext_iff.mpr ((Pass.ensures_iff_end (p := v.pass) fun result j =>
    result = (s.step v.setting ⟨before.note s v.now, []⟩).1.map (Outcome.action v.backoff) ∧
      j = (s.step v.setting ⟨before.note s v.now, []⟩).2).mp ?_)
  unfold pass setting
  rw [Memory.reconcile_ensures]
  dsimp only
  rw [h]
  dsimp only
  rw [Memory.advance_ensures]
  unfold Pass.Ensures
  rcases s.step ⟨Memory.store, v.backoff, v.draws⟩ ⟨before.note s v.now, []⟩ with
    ⟨halt | outcome, j'⟩ <;> exact ⟨rfl, rfl⟩

/-- A pass that decides on a scope writes the status and ends as the step does. -/
theorem turn_of_scope? (h : before.scope? v.controlPlane = some s) :
    (v.turn before).result = (s.step v.setting ⟨before.note s v.now, []⟩).1.map
        (Outcome.action v.backoff) ∧
      (v.turn before).after = (s.step v.setting ⟨before.note s v.now, []⟩).2.store := by
  have hpass := pass_of_scope? h
  exact ⟨congrArg Prod.fst hpass, congrArg (fun ended => ended.2.store) hpass⟩

/-- A pass that decides on a scope ends as its step does, which finds the store
with the status written. -/
theorem turn_ends (h : before.scope? v.controlPlane = some s) :
    ∃ ended, v.outcome? before = some ended ∧
      (v.turn before).result = ended.map (Outcome.action v.backoff) ∧
      s.StepEnds v.backoff v.draws (before.note s v.now) ended (v.turn before).after := by
  obtain ⟨hresult, hafter⟩ := turn_of_scope? h
  refine ⟨_, by rw [outcome?, h, Option.map_some], hresult, ?_⟩
  rw [hafter]
  exact (Pass.ensures_iff_end fun ended j' =>
    s.StepEnds v.backoff v.draws (before.note s v.now) ended j'.store).mp Scope.step_ends

theorem turn_backdrop (v : Visit) (before : Memory) :
    (v.turn before).after.backdrop = before.backdrop := by
  cases hscope : before.scope? v.controlPlane with
  | none => rw [(turn_of_scope?_eq_none hscope).2]
  | some s =>
    obtain ⟨_, -, -, hends⟩ := turn_ends hscope
    rw [hends.backdrop_eq, Memory.note_backdrop]

theorem turn_pinned (v : Visit) (before : Memory) :
    (v.turn before).after.pinned = before.pinned := congrArg Prod.fst (v.turn_backdrop before)

end Visit

end Roster
