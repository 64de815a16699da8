/-
Roster.Proofs.Lagging — passes that all see the same old list of machines.

As long as the watch cache lags behind, pass after pass decides on the same
members and plans the same step.  `Run.lags_safely`: the step is still done
once only.  A first member is created after the source said that there is
none, and the source knows of the one that was created.  The member to remove
is a function of what is seen, so all passes ask for the removal of the same
one, and that it is gone already counts as success.

Both bounds are paid for from a credit of one (`Run.length_flatMap_le`): it is
there until an owned machine is stored, or as long as the selected member is.
-/
import Roster.Proofs.Founding
import Roster.Proofs.Membership
import Roster.Proofs.Requests
import Mathlib.Data.List.Perm.Subperm

namespace Roster

/-! ## What a pass created and removed -/

/-- The machines that are not, just so, among others. -/
noncomputable def Members.minus (ms others : Members) : List Machine :=
  open Classical in ms.toList.filter (· ∉ others.toList)

namespace Members

variable {ms others : Members} {m : Machine}

theorem minus_eq_nil (h : ∀ m ∈ ms.toList, m ∈ others.toList) : ms.minus others = [] := by
  simpa [minus, List.filter_eq_nil_iff] using h

theorem length_minus_le_one (h : ∀ x ∈ ms.toList, x ∉ others.toList → x = m) :
    (ms.minus others).length ≤ 1 := by
  have hsub : ms.minus others ⊆ [m] := by
    intro x hx
    obtain ⟨hx, hnot⟩ := List.mem_filter.mp hx
    exact List.mem_singleton.mpr (h x hx (by simpa using hnot))
  exact (List.subperm_of_subset (ms.nodup.filter _) hsub).length_le

theorem length_minus_insert_le : (minus (ms.insert m) ms).length ≤ 1 :=
  length_minus_le_one fun _ hx hnot => (Keyed.mem_insert.mp hx).resolve_right fun h => hnot h.1

theorem length_minus_erase_le (hm : m ∈ ms.toList) :
    (ms.minus (ms.erase m.identity)).length ≤ 1 :=
  length_minus_le_one fun x hx hnot => ms.eq_of_key_eq hx hm <| by
    by_contra hne
    exact hnot (Keyed.mem_erase.mpr ⟨hx, hne⟩)

end Members

namespace Turn

/-- The machines that are stored after the pass and were not before. -/
noncomputable def arrivals (t : Turn) : List Machine :=
  t.after.inventory.machines.minus t.before.inventory.machines

/-- The machines that were stored before the pass and are not any more. -/
noncomputable def departures (t : Turn) : List Machine :=
  t.before.inventory.machines.minus t.after.inventory.machines

/-- What the pass asked of the store, in order. -/
def requests (t : Turn) : List Request :=
  (reconcile t.visit.setting.recorded t.visit.now t.visit.controlPlane
    ⟨.fresh t.before, []⟩).2.store.requests

end Turn

/-! ## Steps -/

namespace Scope

variable {s : Scope} {backoff : Backoff} {draws : Draws} {before after : Memory}
  {ended : Except Halt Outcome}

/-- A first member is paid for with a credit that is there until the control
plane owns a machine. -/
theorem StepEnds.credit_of_found (h : s.StepEnds backoff draws before ended after)
    (hplan : s.plan = .found) :
    (after.inventory.machines.minus before.inventory.machines).length +
        (!after.inventory.machines.toList.any s.owns).toNat ≤
      (!before.inventory.machines.toList.any s.owns).toNat := by
  have hcalled := s.callsFor_plan
  rw [hplan] at hcalled
  have hnone (hattempts : s.Attempts backoff before) :
      before.inventory.machines.toList.any s.owns = false := by
    obtain ⟨-, -, hforeign⟩ | ⟨hgrow, -⟩ := hattempts
    · simpa using hforeign
    · rw [hplan] at hgrow
      cases hgrow
  cases h with
  | joins hattempts hprovisions =>
    obtain ⟨hjoins, -⟩ := hprovisions.joins
    have hsome : after.inventory.machines.toList.any s.owns = true := by
      rw [hjoins.machines, List.any_eq_true]
      exact ⟨_, Keyed.mem_insert.mpr (.inl rfl), hjoins.owns⟩
    rw [hnone hattempts, hsome, hjoins.machines]
    exact Members.length_minus_insert_le
  | fails hattempts hfails =>
    -- Undoing an attempt may take away a machine for its clone, but adds none.
    have hsub : ∀ m ∈ after.inventory.machines.toList, m ∈ before.inventory.machines.toList := by
      cases hfails.changes with
      | stay hsame => exact fun m hm => hsame ▸ hm
      | mistaken _ _ herased => exact fun m hm => (Keyed.mem_erase.mp (herased ▸ hm)).1
    rw [hnone hattempts, Members.minus_eq_nil hsub, List.length_nil, Nat.zero_add]
    exact Bool.toNat_le _
  | leaves hsize => exact absurd hsize (by have := hcalled.1; omega)
  | _ => simp [Members.minus_eq_nil]

theorem Attempts.plan_ne_shrink {rollout : Bool} (h : s.Attempts backoff before) :
    s.plan ≠ .shrink rollout := by
  intro hplan
  have hadds := h.adds
  rw [hplan] at hadds
  cases hadds

/-- The removal of a member is paid for with a credit that is there as long as it
is stored. -/
theorem StepEnds.credit_of_shrink {rollout : Bool} {m : Machine}
    (h : s.StepEnds backoff draws before ended after) (hplan : s.plan = .shrink rollout)
    (hselect : s.select s.outdated = .ok m) :
    (before.inventory.machines.minus after.inventory.machines).length +
        (after.inventory.machines.contains m.identity).toNat ≤
      (before.inventory.machines.contains m.identity).toNat := by
  cases h with
  | joins hattempts => exact (hattempts.plan_ne_shrink hplan).elim
  | fails hattempts => exact (hattempts.plan_ne_shrink hplan).elim
  | @leaves m' _ _ hselect' hanswer =>
    obtain rfl : m' = m := Except.ok.inj (hselect'.symm.trans hselect)
    have hmachines := Memory.delete_machines m'.reference before
    rw [hanswer] at hmachines
    obtain hsame | ⟨-, hstored, herased⟩ : after.inventory.machines = before.inventory.machines ∨
        _ ∧ before.inventory.machines.contains m'.identity = true ∧
          after.inventory.machines = before.inventory.machines.erase m'.identity := hmachines
    · simp [hsame, Members.minus_eq_nil]
    · have hgone : (before.inventory.machines.erase m'.identity).contains m'.identity = false :=
        Keyed.contains_eq_false_iff.mpr fun x hx => (Keyed.mem_erase.mp hx).2
      obtain ⟨x, hx, hidentity⟩ := Keyed.contains_iff.mp hstored
      rw [herased, hstored, hgone, ← hidentity]
      exact Members.length_minus_erase_le hx
  | _ => simp [Members.minus_eq_nil]

/-- A step that is to remove a member and learns that it is gone ends well. -/
theorem StepEnds.soon_of_gone {rollout : Bool} {m : Machine} {e : Error}
    (h : s.StepEnds backoff draws before ended after) (hplan : s.plan = .shrink rollout)
    (hselect : s.select s.outdated = .ok m) (hclear : (s.preflight backoff [m]).blocking = none)
    (hanswer : (Memory.store.delete m.reference before).1 = .error e)
    (hgone : e.isNotFound = true) : ended = .ok .soon := by
  have hselected {m' : Machine} (h : s.select s.outdated = .ok m') : m' = m :=
    Except.ok.inj (h.symm.trans hselect)
  cases h with
  | rests hrests => simp [hplan] at hrests
  | waits hexcluded hblocked =>
    obtain ⟨hgrow, -⟩ | ⟨m', hselect', rfl⟩ := hexcluded
    · simp [hplan] at hgrow
    · obtain rfl := hselected hselect'
      rw [hclear] at hblocked
      cases hblocked
  | joins hattempts => exact (hattempts.plan_ne_shrink hplan).elim
  | fails hattempts => exact (hattempts.plan_ne_shrink hplan).elim
  | unasked hfound => simp [hplan] at hfound
  | founded hfound => simp [hplan] at hfound
  | leaves => rfl
  | gone => rfl
  | refused _ hselect' hrefused hfound =>
    obtain rfl := hselected hselect'
    rw [hrefused] at hanswer
    obtain rfl := Except.error.inj hanswer
    rw [hgone] at hfound
    cases hfound

/-- What a pass may ask that is to remove the member `m`. -/
def MayRemove (s : Scope) (backoff : Backoff) (m : Machine) (q : Request) : Prop :=
  q.isQuiet = true ∨ q = .delete m.reference ∧ (s.preflight backoff [m]).blocking = none

end Scope

/-! ## Passes that see the same -/

/-- The pinned watch cache, the clusters and the machines stay as they are. -/
structure Memory.StandsStill (before after : Memory) : Prop where
  backdrop : after.backdrop = before.backdrop
  machines : after.inventory.machines = before.inventory.machines

theorem Memory.StandsStill.refl (s : Memory) : s.StandsStill s := ⟨rfl, rfl⟩

/-- When the watch cache is pinned, a later pass decides on the same members.  The
status may have changed in the meantime. -/
theorem Memory.scope?_of_pinned {start store : Memory} {p : ControlPlane}
    (hpinned : start.pinned.isSome = true) (hbackdrop : store.backdrop = start.backdrop)
    (status : Option ControlPlaneStatus) :
    store.scope? { p with status := status } =
      (start.scope? p).map fun s => s.withStatus status := by
  obtain ⟨hpin, hclusters⟩ := Prod.mk.inj hbackdrop
  have hcached : store.cached = start.cached := by
    obtain ⟨machines, hmachines⟩ := Option.isSome_iff_exists.mp hpinned
    rw [cached, cached, hpin, hmachines, Option.getD_some, Option.getD_some]
  ext s
  simp only [Option.map_eq_some_iff, scope?_eq_some_iff, hclusters, hcached]
  constructor
  · rintro ⟨halive, hvalid, clusterName, cluster, howner, hcluster, hrunning, rfl⟩
    exact ⟨_, ⟨halive, hvalid, clusterName, cluster, howner, hcluster, hrunning, rfl⟩, rfl⟩
  · rintro ⟨_, ⟨halive, hvalid, clusterName, cluster, howner, hcluster, hrunning, rfl⟩, rfl⟩
    exact ⟨halive, hvalid, clusterName, cluster, howner, hcluster, hrunning, rfl⟩

open Recorded

namespace Visit

variable {v : Visit} {before : Memory} {s : Scope} {m : Machine} {rollout : Bool} {r : Reference}

/-- A pass that is to remove a member asks for the deletion of the one it selects,
and only if the others pass the check. -/
theorem deletes_selected (hscope : before.scope? v.controlPlane = some s)
    (hplan : s.plan = .shrink rollout) (hselect : s.select s.outdated = .ok m)
    (hr : .delete r ∈ (v.turn before).requests) :
    r = m.reference ∧ (s.preflight v.backoff [m]).blocking = none := by
  have hcalled := s.callsFor_plan
  rw [hplan] at hcalled
  -- A recorded pass decides on the same, so only one scope has to be looked at.
  have hstep : ∀ s', Decides v.setting.store.recorded v.controlPlane ⟨.fresh before, []⟩ s' →
      ∀ j, Asks (fun _ => s.MayRemove v.backoff m) (s'.step v.setting.recorded) j
        fun _ _ => True := by
    intro s' hdecides j
    obtain rfl : s' = s :=
      Option.some.inj
        ((Memory.decides_iff.mp (decides_recorded_iff.mp hdecides)).symm.trans hscope)
    rw [Scope.step, hplan]
    dsimp only
    rw [hcalled.2, Scope.outdated_eq]
    refine asks_shrink (fun _ _ _ _ h => h) fun m' hselect' hclear _ => .inr ?_
    obtain rfl : m' = m := Except.ok.inj (hselect'.symm.trans hselect)
    exact ⟨rfl, hclear⟩
  obtain hquiet | ⟨-, -, hquiet | ⟨hdelete, hclear⟩⟩ :=
    isQuiet_or_follows (fun _ _ => s.MayRemove v.backoff m) (fun _ _ _ _ _ h => h)
      (fun _ _ _ h => .inl h) hstep hr
  · cases hquiet
  · cases hquiet
  · cases hdelete
    exact ⟨rfl, hclear⟩

theorem arrivals_paid (hscope : before.scope? v.controlPlane = some s) (hplan : s.plan = .found) :
    (v.turn before).arrivals.length +
        (!(v.turn before).after.inventory.machines.toList.any s.owns).toNat ≤
      (!before.inventory.machines.toList.any s.owns).toNat := by
  obtain ⟨_, -, -, hends⟩ := turn_ends hscope
  have hpaid := hends.credit_of_found hplan
  rwa [Memory.note_inventory] at hpaid

theorem departures_paid (hscope : before.scope? v.controlPlane = some s)
    (hplan : s.plan = .shrink rollout) (hselect : s.select s.outdated = .ok m) :
    (v.turn before).departures.length +
        ((v.turn before).after.inventory.machines.contains m.identity).toNat ≤
      (before.inventory.machines.contains m.identity).toNat := by
  obtain ⟨_, -, -, hends⟩ := turn_ends hscope
  have hpaid := hends.credit_of_shrink hplan hselect
  rwa [Memory.note_inventory] at hpaid

theorem soon_of_gone {e : Error} (hscope : before.scope? v.controlPlane = some s)
    (hplan : s.plan = .shrink rollout) (hselect : s.select s.outdated = .ok m)
    (hclear : (s.preflight v.backoff [m]).blocking = none)
    (hanswer : (Memory.store.delete m.reference before).1 = .error e)
    (hgone : e.isNotFound = true) :
    (v.turn before).result = .ok (.requeue v.backoff.soon) := by
  obtain ⟨ended, -, hresult, hends⟩ := turn_ends hscope
  rw [← Memory.delete_note m.reference before s v.now] at hanswer
  rw [hresult, hends.soon_of_gone hplan hselect hclear hanswer hgone]
  rfl

end Visit

namespace Run

variable {p : ControlPlane} {s : Scope} {start final : Memory} {turns : List Turn}

/-- Every pass decides on what was to be seen at the start. -/
theorem scope?_eq (h : Run Memory.StandsStill start turns final)
    (hpinned : start.pinned.isSome = true)
    (hvisits : ∀ turn ∈ turns, ∃ status, turn.visit.controlPlane = { p with status := status }) :
    ∀ turn ∈ turns, ∃ status,
      turn.scope? = (start.scope? p).map fun s => s.withStatus status := by
  obtain ⟨hbackdrop, -⟩ := h.invariant (fun s => s.backdrop = start.backdrop) rfl
    (fun s s' hs hstill => hstill.backdrop.trans hs) fun v s _ hs => (v.turn_backdrop s).trans hs
  intro turn hmem
  obtain ⟨status, hp⟩ := hvisits turn hmem
  refine ⟨status, ?_⟩
  rw [Turn.scope?, hp]
  exact Memory.scope?_of_pinned hpinned (hbackdrop turn hmem).1 status

/-- Passes that decide on nothing create and remove nothing. -/
theorem changes_nothing (h : Run Memory.StandsStill start turns final)
    (hsees : ∀ turn ∈ turns, turn.scope? = none) :
    turns.flatMap Turn.arrivals = [] ∧ turns.flatMap Turn.departures = [] := by
  have hidle : ∀ turn ∈ turns, turn.after = turn.before := by
    intro turn hmem
    obtain ⟨v, store, rfl⟩ := h.exists_eq_turn turn hmem
    exact (Visit.turn_of_scope?_eq_none (hsees _ hmem)).2
  simp only [List.flatMap_eq_nil_iff]
  constructor <;> intro turn hmem <;>
    exact Members.minus_eq_nil (by rw [hidle turn hmem]; exact fun _ h => h)

theorem length_arrivals_le_one (h : Run Memory.StandsStill start turns final)
    (hsees : ∀ turn ∈ turns, ∃ status, turn.scope? = some (s.withStatus status))
    (hplan : s.plan = .found) : (turns.flatMap Turn.arrivals).length ≤ 1 := by
  let credit (store : Memory) : Nat := (!store.inventory.machines.toList.any s.owns).toNat
  have hbound := h.length_flatMap_le Turn.arrivals credit
    (fun _ _ hstill => Nat.le_of_eq (by simp only [credit, hstill.machines]))
    fun v store hmem => by
      obtain ⟨status, hseen⟩ := hsees _ hmem
      have hpaid := Visit.arrivals_paid hseen hplan
      exact hpaid
  have hone : credit start ≤ 1 := Bool.toNat_le _
  omega

theorem length_departures_le_one {rollout : Bool} {m : Machine}
    (h : Run Memory.StandsStill start turns final)
    (hsees : ∀ turn ∈ turns, ∃ status, turn.scope? = some (s.withStatus status))
    (hplan : s.plan = .shrink rollout) (hselect : s.select s.outdated = .ok m) :
    (turns.flatMap Turn.departures).length ≤ 1 := by
  let credit (store : Memory) : Nat := (store.inventory.machines.contains m.identity).toNat
  have hbound := h.length_flatMap_le Turn.departures credit
    (fun _ _ hstill => Nat.le_of_eq (by simp only [credit, hstill.machines]))
    fun v store hmem => by
      obtain ⟨status, hseen⟩ := hsees _ hmem
      exact Visit.departures_paid hseen hplan hselect
  have hone : credit start ≤ 1 := Bool.toNat_le _
  omega

/-- In a run of passes that all see the same old list of machines, a step that
creates the first member creates one at most.  A step that removes a member
removes one at most: all passes ask to delete the same one, and those that learn
that it is gone end well.  Whatever else happens between passes, the stored
machines, the clusters and the list stay as they are.  (Until it asks for a
deletion, a pass that is to remove a member changes the status only, so the
answer is that of the store it found.) -/
theorem lags_safely (h : Run Memory.StandsStill start turns final)
    (hpinned : start.pinned.isSome = true)
    (hvisits : ∀ turn ∈ turns, ∃ status, turn.visit.controlPlane = { p with status := status }) :
    match start.scope? p with
    | none => turns.flatMap Turn.arrivals = [] ∧ turns.flatMap Turn.departures = []
    | some s =>
      (s.plan = .found → (turns.flatMap Turn.arrivals).length ≤ 1) ∧
      ∀ rollout, s.plan = .shrink rollout →
        (turns.flatMap Turn.departures).length ≤ 1 ∧
        ∃ m ∈ s.members.toList, ∀ turn ∈ turns, ∀ r, .delete r ∈ turn.requests →
          r = m.reference ∧
          ∀ e, (Memory.store.delete r turn.before).1 = .error e → e.isNotFound = true →
            turn.result = .ok (.requeue turn.visit.backoff.soon) := by
  have hsees := h.scope?_eq hpinned hvisits
  cases hscope : start.scope? p with
  | none =>
    simp only [hscope, Option.map_none, exists_const] at hsees
    exact h.changes_nothing hsees
  | some s =>
    simp only [hscope, Option.map_some] at hsees
    refine ⟨h.length_arrivals_le_one hsees, fun rollout hplan => ?_⟩
    have hcalled := s.callsFor_plan
    rw [hplan] at hcalled
    obtain ⟨x, hx⟩ := List.length_pos_iff_exists_mem.mp (Nat.zero_lt_of_lt hcalled.1)
    -- The choice depends on what is seen alone.
    obtain ⟨m, hselect⟩ := s.exists_select s.outdated hx
    refine ⟨h.length_departures_le_one hsees hplan hselect, m,
      Scope.mem_of_select (fun _ => Scope.outdated_subset) hselect, fun turn hmem r hr => ?_⟩
    obtain ⟨v, store, rfl⟩ := h.exists_eq_turn turn hmem
    obtain ⟨status, hseen⟩ := hsees _ hmem
    obtain ⟨rfl, hclear⟩ := Visit.deletes_selected hseen hplan hselect hr
    exact ⟨rfl, fun e hanswer hgone =>
      Visit.soon_of_gone hseen hplan hselect hclear hanswer hgone⟩

end Run

/-- A store in which the sample control plane has a member too many, and a watch
cache that will go on to show both. -/
@[irreducible]
def Sample.frozen : Memory :=
  let now := Instant.ofSeconds epoch
  let member (name : String) := machine now (controlPlane "cp" 1) name (some "az-1") now
  { memory ["az-1"] with
    inventory := ((memory ["az-1"]).inventory.putMachine (member "cp-a")).putMachine (member "cp-b")
    pinned := some [member "cp-a", member "cp-b"] }

/-- A request for a deletion that is answered with the object not being there. -/
def Sample.findsGone (store : Memory) (q : Request) : Bool :=
  q.deleted?.any fun r =>
    match (Memory.store.delete r store).1 with
    | .error e => e.isNotFound
    | .ok _ => false

/-- Two passes in a row see a member too many.  The first one removes it, the
second one asks for it again, learns that it is gone, and ends well. -/
theorem frozen_cache_removes_one :
    let first := Sample.visit.turn Sample.frozen
    let second := Sample.visit.turn first.after
    first.after.inventory.machines.size = 1 ∧ second.after.inventory.machines.size = 1 ∧
      ([first, second].flatMap Turn.departures).length ≤ 1 ∧
      second.requests.any (Sample.findsGone first.after) = true ∧
      second.result = .ok (.requeue Backoff.usual.soon) := by
  intro first second
  have hrun : Run Memory.StandsStill Sample.frozen [first, second] second.after :=
    .cons (.refl _) (.cons (.refl _) (.nil _))
  have hvisits : ∀ turn ∈ [first, second], ∃ status,
      turn.visit.controlPlane = { Sample.controlPlane "cp" 1 with status := status } := by
    simp only [List.forall_mem_cons, List.not_mem_nil, false_implies, implies_true, and_true]
    exact ⟨⟨none, rfl⟩, none, rfl⟩
  -- Everything that has to be computed is computed at once.
  have hfacts : Sample.frozen.pinned.isSome = true ∧
      (Sample.frozen.scope? (Sample.controlPlane "cp" 1)).any
        (fun s => s.plan == .shrink false) = true ∧
      first.after.inventory.machines.size = 1 ∧ second.after.inventory.machines.size = 1 ∧
      second.requests.any (Sample.findsGone first.after) = true := by decide +kernel
  obtain ⟨hpinned, hshrinks, hone, hone', hasks⟩ := hfacts
  obtain ⟨s, hs, hplan⟩ := (Option.any_eq_true ..).mp hshrinks
  have hsafe := hrun.lags_safely (p := Sample.controlPlane "cp" 1) hpinned hvisits
  rw [hs] at hsafe
  obtain ⟨hbound, m, -, hdeletes⟩ := hsafe.2 false (by simpa using hplan)
  refine ⟨hone, hone', hbound, hasks, ?_⟩
  obtain ⟨q, hq, hgone⟩ := List.any_eq_true.mp hasks
  cases q with
  | delete r =>
    rcases hanswer : (Memory.store.delete r first.after).1 with e | _
    · rw [Sample.findsGone, Request.deleted?, Option.any_some, hanswer] at hgone
      exact (hdeletes second (by simp) r hq).2 e hanswer hgone
    · rw [Sample.findsGone, Request.deleted?, Option.any_some, hanswer] at hgone
      cases hgone
  | _ => cases hgone

end Roster
