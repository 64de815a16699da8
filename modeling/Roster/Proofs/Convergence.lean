/-
Roster.Proofs.Convergence — a control plane that is left alone becomes as
specified.

`rollout_converges`: over an undisturbed store, with a report after every
pass that the new machine is healthy, a control plane of `n` members of
which `k` should go reaches its specification after `|n - desired| + 2k`
passes at most (`Scope.effort`), and then nothing changes any more.

A rollout grows and shrinks in turn, so the size is no measure of what is
left to do.  `Scope.remaining` is one.  A member above the size leaves in
one pass, and takes an unwanted one with it as long as there is any; every
other unwanted member costs two passes, since another one has to join
first.  Every pass but a stable one lowers it by exactly one
(`Moves.remaining_eq`).
-/
import Roster.Proofs.Rounds
import Roster.Sample

namespace Roster

namespace Scope

variable {s s' : Scope}

/-! ## What is left to do -/

/-- The number of members that should go. -/
def unwanted (s : Scope) : Nat := s.members.toList.countP s.isUnwanted

/-- The number of passes that are left. -/
def remaining (s : Scope) : Nat :=
  if s.desired < s.members.size then
    (s.members.size - s.desired) + 2 * (s.unwanted - (s.members.size - s.desired))
  else (s.desired - s.members.size) + 2 * s.unwanted

/-- The number of passes that are enough. -/
def effort (s : Scope) : Nat :=
  ((s.members.size : Int) - s.desired).natAbs + 2 * s.unwanted

theorem remaining_le_effort (s : Scope) : s.remaining ≤ s.effort := by
  unfold remaining effort
  split <;> omega

theorem unwanted_pos_iff : 0 < s.unwanted ↔ ∃ m ∈ s.members.toList, s.isUnwanted m = true :=
  List.countP_pos_iff

/-- Outdated members should go. -/
theorem unwanted_pos_of_outdated (h : s.outdated.isEmpty = false) : 0 < s.unwanted := by
  obtain ⟨m, hm⟩ := Keyed.isEmpty_eq_false_iff.mp h
  obtain ⟨hmem, hold⟩ := Keyed.mem_filter.mp hm
  rw [Bool.and_eq_true] at hold
  exact unwanted_pos_iff.mpr ⟨m, hmem, Bool.or_eq_true_iff.mpr (.inl hold.2)⟩

/-- Nothing is left to do only for a stable control plane. -/
theorem plan_eq_stable_of_remaining (h : s.remaining = 0) : s.plan = .stable := by
  have hsettled : s.members.size = s.desired ∧ s.unwanted = 0 := by
    unfold remaining at h
    split at h <;> omega
  obtain ⟨hsize, hnone⟩ := hsettled
  refine plan_eq_stable_iff.mpr ⟨hsize, ?_⟩
  rw [← Bool.not_eq_false]
  intro hold
  have hpos := unwanted_pos_of_outdated hold
  omega

/-! ## The members from round to round -/

/-- How the members change in a round. -/
inductive Moves (s s' : Scope) : Prop where
  /-- A wanted member joins. -/
  | joins (m : Machine) (hplan : s.plan.adds = true)
      (perm : s'.members.toList.Perm (m :: s.members.toList))
      (hwanted : s.isUnwanted m = false) (hsteady : m.isSteady = true)
  /-- A member leaves, an unwanted one if there is any. -/
  | leaves (m : Machine) (rollout : Bool) (hplan : s.plan = .shrink rollout)
      (perm : s.members.toList.Perm (m :: s'.members.toList))
      (hunwanted : (∃ x ∈ s.members.toList, s.isUnwanted x = true) → s.isUnwanted m = true)
  /-- All stay. -/
  | rests (hplan : s.plan = .stable) (heq : s'.members = s.members)

theorem Moves.allSteady (h : s.Moves s') (hsteady : s.AllSteady) : s'.AllSteady := by
  intro x hx
  cases h with
  | joins m _ perm _ hm =>
    rcases List.mem_cons.mp (perm.mem_iff.mp hx) with rfl | hx
    · exact hm
    · exact hsteady x hx
  | leaves m _ _ perm _ => exact hsteady x (perm.mem_iff.mpr (List.mem_cons_of_mem m hx))
  | rests _ heq => exact hsteady x (heq ▸ hx)

/-- Every round but one at rest is one of those that are left. -/
theorem Moves.remaining_eq (h : s.Moves s') (hdesired : s'.desired = s.desired)
    (hsame : s'.isUnwanted = s.isUnwanted) (hplan : s.plan ≠ .stable) :
    s'.remaining + 1 = s.remaining := by
  have hcalled := s.callsFor_plan
  cases h with
  | joins m hadds perm hwanted _ =>
    have hsize : s'.members.size = s.members.size + 1 := perm.length_eq
    have hcount : s'.unwanted = s.unwanted := by
      rw [unwanted, hsame, perm.countP_eq, List.countP_cons_of_neg (by simp [hwanted])]
      rfl
    obtain ⟨hle, hout⟩ := room_of_adds hadds
    have hpos : s.members.size = s.desired → 0 < s.unwanted :=
      fun heq => unwanted_pos_of_outdated (hout heq)
    unfold remaining
    rw [hsize, hcount, hdesired, if_neg (Nat.not_lt.mpr hle)]
    split <;> omega
  | leaves m rollout hshrink perm hunwanted =>
    have hsize : s.members.size = s'.members.size + 1 := perm.length_eq
    have hcount : s.unwanted = s'.unwanted + if s.isUnwanted m then 1 else 0 := by
      rw [unwanted, perm.countP_eq, List.countP_cons, unwanted, hsame]
    have hmore : 0 < s.unwanted → s.isUnwanted m = true :=
      fun h => hunwanted (unwanted_pos_iff.mp h)
    rw [hshrink] at hcalled
    have hlarge : s.desired < s.members.size := hcalled.1
    unfold remaining
    rw [hdesired, if_pos hlarge]
    by_cases hm : s.isUnwanted m = true
    · rw [if_pos hm] at hcount
      split <;> omega
    · -- A wanted member leaves only when there is no unwanted one.
      have hzero : s.unwanted = 0 := by
        by_contra hne
        exact hm (hmore (by omega))
      rw [if_neg hm] at hcount
      split <;> omega
  | rests hstable _ => exact absurd hstable hplan

/-! ## A round -/

variable {start store store' : Memory} {m : Machine} {after : Inventory}
  {status : Option ControlPlaneStatus}

/-- The rollout that was begun on `start` goes on in `store`. -/
structure Ongoing (s : Scope) (start store : Memory) : Prop where
  undisturbed : s.Undisturbed store
  clusters : store.inventory.clusters = start.inventory.clusters
  steady : (s.within store none).AllSteady

/-- What stands in the way of new members does not depend on the status. -/
theorem Undisturbed.within (h : s.Undisturbed store) (status : Option ControlPlaneStatus) :
    (s.within store status).Undisturbed store :=
  ⟨h.unpinned, h.allowed, h.isNamed, h.template, h.kind, h.names⟩

namespace Ongoing

/-- Whatever moves the members, and neither changes the rules nor touches the
template and the cluster, is part of the rollout. -/
theorem next (h : s.Ongoing start store)
    (hmoves : (s.within store none).Moves (s.within store' none))
    (hrules : store.RulesKept store')
    (hclusters : store'.inventory.clusters = store.inventory.clusters)
    (htemplate : store'.inventory.objects.lookup s.templateRef.key =
      store.inventory.objects.lookup s.templateRef.key) : s.Ongoing start store' where
  undisturbed := h.undisturbed.of_rulesKept hrules htemplate
  clusters := hclusters.trans h.clusters
  steady := hmoves.allSteady h.steady

/-- A round in which a member joins, and is reported healthy. -/
theorem joins {draws : Draws} {now : Instant} (h : s.Ongoing start store)
    (hadds : (s.within store none).plan.adds = true)
    (hjoins : (s.within store status).Joins draws store.inventory m after)
    (hnew : store.inventory.machines.contains m.identity = false)
    (hround : store'.inventory =
      { after with machines := store.inventory.machines.insert (m.bringUp now) })
    (hrules : store.RulesKept store') :
    (s.within store none).Moves (s.within store' none) ∧ s.Ongoing start store' := by
  have hmachines : store'.inventory.machines = store.inventory.machines.insert (m.bringUp now) :=
    congrArg Inventory.machines hround
  have hcurrent : s.controlPlane.isCurrent m = true := hjoins.isCurrent
  have howned : s.owns (m.bringUp now) = true := hjoins.owns
  have hwanted : s.isUnwanted m = false := by
    rw [isUnwanted, hcurrent, hjoins.isMarked]
    rfl
  have hsteady : (m.bringUp now).isSteady = true :=
    Machine.isSteady_iff.mpr ⟨hjoins.isDeleting, m.isHealthy_bringUp now⟩
  have hperm : (s.within store' none).members.toList.Perm
      (m.bringUp now :: (s.within store none).members.toList) := by
    have hperm := (Keyed.perm_insert (a := m.bringUp now) hnew).filter s.owns
    rw [List.filter_cons_of_pos howned, ← hmachines] at hperm
    exact hperm
  have hmoves : (s.within store none).Moves (s.within store' none) :=
    .joins _ hadds hperm hwanted hsteady
  refine ⟨hmoves, h.next hmoves hrules ?_ ?_⟩
  · rw [hround]
    exact hjoins.clusters
  · rw [hround]
    exact hjoins.template

/-- A round in which a member leaves. -/
theorem leaves {rollout : Bool} (h : s.Ongoing start store)
    (hplan : (s.within store none).plan = .shrink rollout)
    (hleaves : (s.within store status).Leaves store.inventory m after)
    (hround : store'.inventory = after) (hrules : store.RulesKept store') :
    (s.within store none).Moves (s.within store' none) ∧ s.Ongoing start store' := by
  have hround := hround.trans hleaves.eq_erase
  have hmachines : store'.inventory.machines = store.inventory.machines.erase m.identity :=
    congrArg Inventory.machines hround
  have hperm : (s.within store none).members.toList.Perm
      (m :: (s.within store' none).members.toList) := by
    obtain ⟨hstored, howned⟩ := Keyed.mem_filter.mp hleaves.mem
    have hperm := (Keyed.perm_erase hstored).filter s.owns
    rw [List.filter_cons_of_pos howned, ← hmachines] at hperm
    exact hperm
  have hmoves : (s.within store none).Moves (s.within store' none) :=
    .leaves m rollout hplan hperm hleaves.unwanted
  exact ⟨hmoves, h.next hmoves hrules (by rw [hround]) (by rw [hround])⟩

/-- A round in which nothing happens. -/
theorem rests (h : s.Ongoing start store) (hplan : (s.within store none).plan = .stable)
    (hround : store'.inventory = store.inventory) (hrules : store.RulesKept store') :
    (s.within store none).Moves (s.within store' none) ∧ s.Ongoing start store' := by
  have hmembers : (s.within store' none).members = (s.within store none).members := by
    rw [Scope.within, hround]
    rfl
  have hmoves : (s.within store none).Moves (s.within store' none) := .rests hplan hmembers
  exact ⟨hmoves, h.next hmoves hrules (by rw [hround]) (by rw [hround])⟩

end Ongoing

end Scope

namespace Visit

variable {v : Visit} {p : ControlPlane} {s : Scope} {start store : Memory}
  {status : Option ControlPlaneStatus}

/-- Whether a machine that the pass is about to add has a name of its own. -/
def drawsFresh (v : Visit) (store : Memory) : Bool :=
  match store.scope? v.controlPlane with
  | none => true
  | some s =>
    !s.plan.adds ||
      match Scope.freshName s.name v.draws.machine with
      | .ok name => !store.inventory.machines.contains ⟨s.ns, name⟩
      | .error _ => true

theorem contains_of_drawsFresh {m : Machine} {after : Inventory}
    (hscope : store.scope? v.controlPlane = some s) (hfresh : v.drawsFresh store = true)
    (hadds : s.plan.adds = true) (h : s.Joins v.draws store.inventory m after) :
    store.inventory.machines.contains m.identity = false := by
  obtain ⟨name, hname, hidentity⟩ := h.identity
  simp only [drawsFresh, hscope, hadds, hname] at hfresh
  rw [hidentity]
  simpa using hfresh

/-- What a pass over an ongoing rollout decides on. -/
theorem scope?_of_ongoing (hscope : start.scope? p = some s) (h : s.Ongoing start store)
    (hv : v.controlPlane = { p with status := status }) :
    store.scope? v.controlPlane = some (s.within store status) :=
  hv ▸ Memory.scope?_of_unpinned hscope h.clusters h.undisturbed.unpinned status

/-- A stable control plane is left as it is. -/
theorem turn_of_stable (hscope : start.scope? p = some s) (h : s.Ongoing start store)
    (hv : v.controlPlane = { p with status := status })
    (hplan : (s.within store none).plan = .stable) :
    (v.turn store).after.inventory = store.inventory ∧
      (v.round store).inventory = store.inventory := by
  obtain ⟨heffect, -⟩ :=
    turn_effect (scope?_of_ongoing hscope h hv) (h.undisturbed.within status) rfl h.steady
  have hplan : (s.within store status).plan = .stable := hplan
  unfold Scope.Effect at heffect
  rw [hplan] at heffect
  have hkept : (v.turn store).after.inventory = store.inventory := heffect
  refine ⟨hkept, Eq.trans (Inventory.bringUp_eq_self v.now fun m hm => ?_) hkept⟩
  rw [hkept] at hm
  exact Keyed.contains_iff.mpr ⟨m, hm, rfl⟩

/-- A round moves the members as planned, and the rollout goes on. -/
theorem round_moves (hscope : start.scope? p = some s) (h : s.Ongoing start store)
    (hv : v.controlPlane = { p with status := status }) (hfresh : v.drawsFresh store = true) :
    (s.within store none).Moves (s.within (v.round store) none) ∧
      s.Ongoing start (v.round store) := by
  have hseen := scope?_of_ongoing hscope h hv
  obtain ⟨heffect, hturn⟩ := turn_effect hseen (h.undisturbed.within status) rfl h.steady
  have hrules : store.RulesKept (v.round store) := ⟨hturn.pinned, hturn.faults⟩
  -- Two of the four steps add a member, in the same way.
  have hjoins (hadds : (s.within store status).plan.adds = true)
      (heffect : ∃ m, (s.within store status).Joins v.draws store.inventory m
        (v.turn store).after.inventory) :
      (s.within store none).Moves (s.within (v.round store) none) ∧
        s.Ongoing start (v.round store) := by
    obtain ⟨m, hjoins⟩ := heffect
    have hnew := contains_of_drawsFresh hseen hfresh hadds hjoins
    exact h.joins hadds hjoins hnew (Inventory.bringUp_insert v.now hjoins.machines hnew) hrules
  unfold Scope.Effect at heffect
  cases hplan : (s.within store status).plan with
  | found =>
    rw [hplan] at heffect
    exact hjoins (by rw [hplan]; rfl) heffect
  | grow =>
    rw [hplan] at heffect
    exact hjoins (by rw [hplan]; rfl) heffect
  | shrink rollout =>
    rw [hplan] at heffect
    obtain ⟨m, hleaves⟩ := heffect
    refine h.leaves hplan hleaves (Inventory.bringUp_eq_self v.now fun x hx => ?_) hrules
    rw [hleaves.eq_erase] at hx
    exact Keyed.contains_iff.mpr ⟨x, (Keyed.mem_erase.mp hx).1, rfl⟩
  | stable => exact h.rests hplan (turn_of_stable hscope h hv hplan).2 hrules

/-- A pass that adds no member needs no name. -/
theorem drawsFresh_of_stable (hscope : store.scope? v.controlPlane = some s)
    (hplan : s.plan = .stable) : v.drawsFresh store = true := by
  simp [drawsFresh, hscope, hplan, Plan.adds]

end Visit

/-! ## All rounds -/

namespace Scope

variable {p : ControlPlane} {s : Scope} {start store : Memory} {visits : Nat → Visit}

/-- A control plane that stays as specified: it has its size and no member that
is not as specified, and a pass changes nothing that is stored. -/
structure Converged (s : Scope) (v : Visit) (store : Memory) : Prop where
  stable : ∃ seen, store.scope? v.controlPlane = some seen ∧ seen.plan = .stable ∧
    seen.members.size = s.desired ∧ ∀ m ∈ seen.members.toList, s.controlPlane.isCurrent m = true
  unchanged : (v.turn store).after.inventory = store.inventory

/-- After so many rounds the control plane is stable, or that many are done. -/
theorem rounds_ongoing (hscope : start.scope? p = some s) (hstart : s.Ongoing start start)
    (hvisits : ∀ i, ∃ status, (visits i).controlPlane = { p with status := status })
    (hfresh : ∀ i < (s.within start none).remaining,
      (visits i).drawsFresh (rounds visits start i) = true) (i : Nat) :
    s.Ongoing start (rounds visits start i) ∧
      ((s.within (rounds visits start i) none).plan = .stable ∨
        (s.within (rounds visits start i) none).remaining + i ≤
          (s.within start none).remaining) := by
  induction i with
  | zero => exact ⟨hstart, .inr (Nat.le_refl _)⟩
  | succ i ih =>
    obtain ⟨hongoing, hcase⟩ := ih
    obtain ⟨status, hv⟩ := hvisits i
    by_cases hplan : (s.within (rounds visits start i) none).plan = .stable
    · -- Nothing is stored or deleted any more, so it is stable again.
      have hseen := Visit.scope?_of_ongoing hscope hongoing hv
      have hround := Visit.round_moves hscope hongoing hv (Visit.drawsFresh_of_stable hseen hplan)
      have hkept : (rounds visits start (i + 1)).inventory = (rounds visits start i).inventory :=
        (Visit.turn_of_stable hscope hongoing hv hplan).2
      refine ⟨hround.2, .inl ?_⟩
      rw [within, hkept]
      exact hplan
    · -- There are passes left, so a name drawn now is still fresh.
      have hleft := hcase.resolve_left hplan
      have hpos : (s.within (rounds visits start i) none).remaining ≠ 0 :=
        fun hzero => hplan (plan_eq_stable_of_remaining hzero)
      have hround := Visit.round_moves hscope hongoing hv (hfresh i (by omega))
      have hless := hround.1.remaining_eq rfl rfl hplan
      refine ⟨hround.2, .inr ?_⟩
      show (s.within ((visits i).round (rounds visits start i)) none).remaining + (i + 1) ≤ _
      omega

theorem Ongoing.converged {v : Visit} {status : Option ControlPlaneStatus}
    (hscope : start.scope? p = some s) (h : s.Ongoing start store)
    (hv : v.controlPlane = { p with status := status })
    (hplan : (s.within store none).plan = .stable) : s.Converged v store := by
  obtain ⟨hsize, hnone⟩ := plan_eq_stable_iff.mp hplan
  refine ⟨⟨_, Visit.scope?_of_ongoing hscope h hv, hplan, hsize, fun m hm => ?_⟩,
    (Visit.turn_of_stable hscope h hv hplan).1⟩
  have hstays : m.isDeleting = false := (Machine.isSteady_iff.mp (h.steady m hm)).1
  exact isCurrent_of_isEmpty_outdated (s := s.within store none) hnone hm hstays

/-- A control plane with steady members that nobody disturbs becomes as
specified: after `|n - desired| + 2k` passes at most, each followed by a report
that the new machine is healthy, it is stable for good. -/
theorem rollout_converges (hscope : start.scope? p = some s) (hworld : s.Undisturbed start)
    (hsteady : s.AllSteady)
    (hvisits : ∀ i, ∃ status, (visits i).controlPlane = { p with status := status })
    (hfresh : ∀ i < s.effort, (visits i).drawsFresh (rounds visits start i) = true)
    (i : Nat) (hi : s.effort ≤ i) :
    s.Converged (visits i) (rounds visits start i) ∧
      (rounds visits start (i + 1)).inventory = (rounds visits start i).inventory := by
  have hself : s.within start p.status = s :=
    Option.some.inj
      ((Memory.scope?_of_unpinned hscope rfl hworld.unpinned p.status).symm.trans hscope)
  have hbound : (s.within start none).remaining ≤ s.effort :=
    calc (s.within start none).remaining
      _ = (s.within start p.status).remaining := rfl
      _ = s.remaining := by rw [hself]
      _ ≤ s.effort := s.remaining_le_effort
  have hstart : s.Ongoing start start := by
    refine ⟨hworld, rfl, ?_⟩
    show (s.within start p.status).AllSteady
    rw [hself]
    exact hsteady
  obtain ⟨hongoing, hcase⟩ :=
    rounds_ongoing hscope hstart hvisits (fun i hi => hfresh i (by omega)) i
  have hplan : (s.within (rounds visits start i) none).plan = .stable := by
    rcases hcase with hplan | hleft
    · exact hplan
    · exact plan_eq_stable_of_remaining (by omega)
  obtain ⟨status, hv⟩ := hvisits i
  exact ⟨hongoing.converged hscope hv hplan, (Visit.turn_of_stable hscope hongoing hv hplan).2⟩

end Scope

/-- Passes over a sample control plane of two members, each with a suffix of its
own. -/
def Sample.rollout (i : Nat) : Visit :=
  ⟨controlPlane "cp" 2, .ofSeconds epoch, .usual, ⟨.first, .first,
    ⟨Vector.replicate 5 ⟨i % suffixLetters.length, Nat.mod_lt i (by decide)⟩⟩⟩⟩

/-- A store with two members of that control plane: one that somebody asked to
remove, and one that runs another version. -/
@[irreducible]
def Sample.mixed : Memory :=
  let now := Instant.ofSeconds epoch
  let member (name : String) : Machine :=
    machine now (controlPlane "cp" 2) name (some "az-1") now
  let asked : Machine := { member "cp-a" with
    metadata := { (member "cp-a").metadata with
      annotations := some (.ofList [(Labels.deleteMachine, "")]) } }
  let old : Machine := { member "cp-b" with
    spec := { (member "cp-b").spec with version := some "v1.28.0" } }
  { memory ["az-1"] with
    inventory := ((memory ["az-1"]).inventory.putMachine asked).putMachine old }

theorem Sample.mixed_undisturbed {s : Scope}
    (hscope : mixed.scope? (controlPlane "cp" 2) = some s) : s.Undisturbed mixed := by
  have hp : s.controlPlane = controlPlane "cp" 2 := Memory.scope?_controlPlane hscope
  have htemplate : (mixed.scope? (controlPlane "cp" 2)).any (fun s =>
      (mixed.inventory.objects.lookup s.templateRef.key).any fun template =>
        ((template.data.lookup "spec").bind (Json.get? "template")).isSome) = true := by
    decide +kernel
  have hkind : (mixed.scope? (controlPlane "cp" 2)).any (fun s =>
      (Scope.clonedKind? s.templateRef.kind).isSome) = true := by decide +kernel
  have hnames : (mixed.scope? (controlPlane "cp" 2)).any (fun s =>
      [s.name, s.templateRef.name].all fun stem => (GeneratedName.takeBytes?
        (GeneratedName.maxBytes - GeneratedName.suffixBytes) (stem ++ "-").toList).isSome) =
      true := by decide +kernel
  rw [hscope, Option.any_some] at htemplate hkind hnames
  obtain ⟨template, hfound, hinner⟩ := (Option.any_eq_true ..).mp htemplate
  obtain ⟨inner, hinner⟩ := Option.isSome_iff_exists.mp hinner
  refine ⟨by decide +kernel, by decide +kernel, ⟨"cp", controlPlaneUid, ?_, ?_⟩,
    ⟨template, inner, hfound, hinner⟩, Option.isSome_iff_exists.mp hkind, ?_⟩
  · rw [hp]
    rfl
  · rw [hp]
    rfl
  · intro stem hstem suffix
    exact Scope.exists_freshName_iff.mpr (List.all_eq_true.mp hnames stem hstem)

/-- A rollout that removes one member on request and one that is outdated takes
four passes. -/
theorem mixed_rollout_converges :
    ∃ s, Sample.mixed.scope? (Sample.controlPlane "cp" 2) = some s ∧ s.effort = 4 ∧
      s.Converged (Sample.rollout 4) (rounds Sample.rollout Sample.mixed 4) := by
  have hfacts : (Sample.mixed.scope? (Sample.controlPlane "cp" 2)).any (fun s =>
      s.members.toList.all Machine.isSteady && decide (s.effort = 4)) = true := by decide +kernel
  have hfresh : ∀ i < 4,
      (Sample.rollout i).drawsFresh (rounds Sample.rollout Sample.mixed i) = true := by
    decide +kernel
  obtain ⟨s, hscope, hs⟩ := (Option.any_eq_true ..).mp hfacts
  rw [Bool.and_eq_true, List.all_eq_true, decide_eq_true_eq] at hs
  obtain ⟨hsteady, heffort⟩ := hs
  exact ⟨s, hscope, heffort, (Scope.rollout_converges hscope (Sample.mixed_undisturbed hscope)
    hsteady (fun _ => ⟨none, rfl⟩) (heffort.symm ▸ hfresh) 4 (by omega)).1⟩

end Roster
