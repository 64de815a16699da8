/-
Roster.Proofs.SizeBounds — how many members a control plane can have.

Nothing is remembered between passes, so a pass may want to add a member
where the one before wanted to remove one.  `Run.size_bounds`: still, in
any run there is never more than one member above the desired number, unless
the control plane started with more, and never fewer than desired, unless it
started with fewer.

The lower bound needs that no attempt is undone whose clone passes for a
member (`Turn.sparesMembers`): `decoy_takes_a_member` is a run in which a
member is deleted in place of such a clone.
-/
import Roster.Proofs.Founding
import Roster.Proofs.Listed

namespace Roster

/-- How the number of members changes in a step. -/
theorem Scope.Changes.sizes {s : Scope} {draws : Draws} {before after : Inventory}
    {ended : Except Halt Outcome} (h : s.Changes draws before after ended)
    (hmembers : s.members = before.machines.filter s.owns) :
    (after.machines.filter s.owns).size ≤ max s.members.size (s.desired + 1) ∧
      ((∀ i ∈ s.decoy? draws, s.members.contains i = false) →
        min s.members.size s.desired ≤ (after.machines.filter s.owns).size) := by
  cases h with
  | stay hsame =>
    rw [hsame, ← hmembers]
    exact ⟨by omega, fun _ => by omega⟩
  | joins hplan hjoins =>
    obtain ⟨hroom, -⟩ := room_of_adds hplan
    rw [hjoins.machines, Keyed.filter_insert hjoins.owns, ← hmembers, Keyed.size_insert]
    split
    · exact ⟨by omega, fun _ => by omega⟩
    · exact ⟨by omega, fun _ => by omega⟩
  | leaves hsize hselect _ herased =>
    have hsmaller := Keyed.size_erase (mem_of_select (fun _ => outdated_subset) hselect)
    rw [herased, Keyed.filter_erase, ← hmembers]
    exact ⟨by omega, fun _ => by omega⟩
  | @mistaken i _ hdecoy _ herased =>
    -- Only here does the number fall without the step having asked for it.
    rw [herased, Keyed.filter_erase, ← hmembers]
    refine ⟨?_, fun hspared => ?_⟩
    · have hsmaller : (s.members.erase i).size ≤ s.members.size := List.length_filter_le ..
      omega
    · rw [Keyed.erase_eq_self (hspared i hdecoy)]
      omega

/-- No clone of the pass passes for a member. -/
def Turn.sparesMembers (t : Turn) : Prop :=
  ∀ s ∈ t.scope?, ∀ i ∈ s.decoy? t.visit.draws, s.members.contains i = false

instance (t : Turn) : Decidable t.sparesMembers :=
  inferInstanceAs (Decidable (∀ s ∈ t.scope?, _))

/-- Between passes anything may change but which members there are.  The watch
cache is not pinned. -/
structure Memory.KeepsRoster (p : ControlPlane) (s s' : Memory) : Prop where
  unpinned : s'.pinned = none
  identities : (s'.roster p).identities = (s.roster p).identities

namespace Memory

variable {p : ControlPlane} {s s' : Memory}

theorem KeepsRoster.size_eq (h : KeepsRoster p s s') :
    (s'.roster p).size = (s.roster p).size := by
  simpa [Members.identities, Keyed.size] using congrArg List.length h.identities

theorem keepsRoster_reported (hunpinned : s.pinned = none)
    (report : Machine → Option MachineStatus) : KeepsRoster p s (s.reported report) := by
  refine ⟨hunpinned, ?_⟩
  rw [Members.identities, toList_roster_reported, List.map_map]
  rfl

end Memory

theorem Visit.turn_sizes {v : Visit} {before : Memory} {p : ControlPlane}
    (hunpinned : before.pinned = none) (hcontinues : p.Continues v.controlPlane)
    (hdesired : v.controlPlane.desired = p.desired) :
    ((v.turn before).after.roster p).size ≤ max (before.roster p).size (p.desired + 1) ∧
      ((v.turn before).sparesMembers →
        min (before.roster p).size p.desired ≤ ((v.turn before).after.roster p).size) := by
  obtain hsame | ⟨s, ended, hscope, hmembers, howns, hchanges⟩ :=
    turn_roster hunpinned hcontinues
  · rw [hsame]
    exact ⟨by omega, fun _ => by omega⟩
  · have hdesired : s.desired = p.desired := by
      rw [← hdesired, ← Memory.scope?_controlPlane hscope]
      rfl
    have hsizes := hchanges.sizes (by rw [howns]; exact hmembers)
    rw [howns, hmembers, hdesired] at hsizes
    exact hsizes.imp_right fun hlower hspares => hlower (hmembers ▸ hspares s hscope)

/-- In a run of passes over one control plane with a fixed desired number, the
number of members never rises above the larger of what it was and one more
than desired.  It never falls below the smaller of what it was and what is
desired, as long as no clone passes for a member. -/
theorem Run.size_bounds {p : ControlPlane} {start final : Memory} {turns : List Turn}
    (h : Run (Memory.KeepsRoster p) start turns final) (hunpinned : start.pinned = none)
    (hpasses : ∀ turn ∈ turns, p.Continues turn.visit.controlPlane ∧
      turn.visit.controlPlane.spec.desiredReplicas = p.spec.desiredReplicas) :
    let bounded (store : Memory) : Prop :=
      (store.roster p).size ≤ max (start.roster p).size (p.desired + 1) ∧
        ((∀ turn ∈ turns, turn.sparesMembers) →
          min (start.roster p).size p.desired ≤ (store.roster p).size)
    (∀ turn ∈ turns, bounded turn.before ∧ bounded turn.after) ∧ bounded final := by
  intro bounded
  -- That the cache is not pinned is part of the invariant: a pass decides on the roster only then.
  have hbounded : (∀ turn ∈ turns, (turn.before.pinned = none ∧ bounded turn.before) ∧
      turn.after.pinned = none ∧ bounded turn.after) ∧ final.pinned = none ∧ bounded final := by
    refine h.invariant (fun store => store.pinned = none ∧ bounded store) ?_ ?_ ?_
    · exact ⟨hunpinned, by omega, fun _ => by omega⟩
    · rintro s s' ⟨-, hbounded⟩ hkeeps
      refine ⟨hkeeps.unpinned, ?_⟩
      simp only [bounded, hkeeps.size_eq]
      exact hbounded
    · rintro v s hmem ⟨hs, hupper, hlower⟩
      obtain ⟨hcontinues, hreplicas⟩ := hpasses _ hmem
      have hdesired : v.controlPlane.desired = p.desired := by
        rw [ControlPlane.desired, ControlPlane.desired]
        exact congrArg (fun n : Int32 => n.toInt.toNat) hreplicas
      obtain ⟨hmost, hleast⟩ := Visit.turn_sizes (v := v) hs hcontinues hdesired
      refine ⟨(v.turn_pinned s).trans hs, by omega, fun hspares => ?_⟩
      have hbefore := hlower hspares
      have hafter := hleast (hspares _ hmem)
      omega
  exact ⟨fun turn hmem => ⟨(hbounded.1 turn hmem).1.2, (hbounded.1 turn hmem).2.2⟩, hbounded.2.2⟩

/-- A store with one member, which runs another version. -/
@[irreducible]
def Sample.outdated : Memory :=
  let now := Instant.ofSeconds epoch
  let member := machine now (controlPlane "cp" 1) "cp-a" (some "az-1") now
  let old := { member with spec := { member.spec with version := some "v1.28.0" } }
  { memory ["az-1"] with inventory := (memory ["az-1"]).inventory.putMachine old }

/-- A rollout of one member goes up to two members, and from there back to one. -/
theorem rollout_stays_in_bounds :
    let p := Sample.controlPlane "cp" 1
    let first := Sample.visit.turn Sample.outdated
    let second := Sample.visit.turn (Sample.healthy first.after)
    (first.after.roster p).size = 2 ∧ (first.after.roster p).size ≤ max 1 (p.desired + 1) ∧
      (second.after.roster p).size = 1 ∧ min 1 p.desired ≤ (second.after.roster p).size := by
  intro p first second
  have hpinned : Sample.outdated.pinned = none := by decide +kernel
  have hpinned₁ : first.after.pinned = none := (Visit.turn_pinned _ _).trans hpinned
  have hrun : Run (Memory.KeepsRoster p) Sample.outdated [first, second] second.after :=
    .cons ⟨hpinned, rfl⟩ (.cons (Memory.keepsRoster_reported hpinned₁ _) (.nil second.after))
  have hpasses : ∀ turn ∈ [first, second], p.Continues turn.visit.controlPlane ∧
      turn.visit.controlPlane.spec.desiredReplicas = p.spec.desiredReplicas := by
    simp only [List.forall_mem_cons, List.not_mem_nil, false_implies, implies_true, and_true]
    exact ⟨⟨⟨rfl, rfl, rfl⟩, rfl⟩, ⟨rfl, rfl, rfl⟩, rfl⟩
  -- Everything that has to be computed is computed at once.
  have hfacts : (∀ turn ∈ [first, second], turn.sparesMembers) ∧
      (Sample.outdated.roster p).size = 1 ∧ (first.after.roster p).size = 2 ∧
      (second.after.roster p).size = 1 := by decide +kernel
  obtain ⟨hspares, hstart, htwo, hone⟩ := hfacts
  obtain ⟨hturns, -, hlower⟩ := hrun.size_bounds hpinned hpasses
  have hupper := (hturns first List.mem_cons_self).2.1
  rw [hstart] at hupper hlower
  exact ⟨htwo, hupper, hone, hlower hspares⟩

/-- The sample control plane with a template whose clones have the kind of
machines. -/
def Sample.disguised : ControlPlane :=
  let p := controlPlane "cp" 3
  { p with spec := { p.spec with
      infrastructureRef := { p.spec.infrastructureRef with kind := "MachineTemplate" } } }

/-- A store with that template, and with a member that has the first name drawn
for a clone of it.  No machine can be created. -/
@[irreducible]
def Sample.crossed : Memory :=
  let now := Instant.ofSeconds epoch
  let template := { template with kind := some ⟨infrastructureVersion, "MachineTemplate"⟩ }
  let inventory := (memory ["az-1"]).inventory.putObject template.key template
  { memory ["az-1"] with
    inventory := inventory.putMachine
      (machine now disguised "cp-template-bbbbb" (some "az-1") now)
    faults := [.createMachine] }

/-- A control plane that should have three members loses its only one: undoing
the attempt to add another takes it for the clone of the template. -/
theorem decoy_takes_a_member :
    let p := Sample.disguised
    let turn := Visit.turn { Sample.visit with controlPlane := p } Sample.crossed
    Run (Memory.KeepsRoster p) Sample.crossed [turn] turn.after ∧
      Sample.crossed.pinned = none ∧ p.Continues turn.visit.controlPlane ∧
      turn.visit.controlPlane.spec.desiredReplicas = p.spec.desiredReplicas ∧
      (turn.after.roster p).size < min (Sample.crossed.roster p).size p.desired := by
  have hunpinned : Sample.crossed.pinned = none := by decide +kernel
  exact ⟨.cons ⟨hunpinned, rfl⟩ (.nil _), hunpinned, ⟨rfl, rfl, rfl⟩, rfl, by decide +kernel⟩

end Roster
