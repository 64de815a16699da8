/-
Roster.Proofs.Membership — a pass changes one machine at most.

`Scope.Changes` says what a step does to the stored machines, case by case:
they stay, a new member joins, or the selected one leaves.  There is a fourth
case.  A store in memory tells objects apart by the name of their kind, so
when an attempt is undone whose clone has the kind of machines, a machine of
the clone's name is taken away instead (`Scope.decoy?`).  Names that are not
in use exclude it.

`Visit.turn_changes_one_machine`: then the machines stay, or one is added, or
one is removed; they stay in every pass that fails, and in every pass that
does not ask for another one right away.
-/
import Roster.Proofs.Endings
import Roster.Proofs.Newcomer
import Roster.Sample

namespace Roster

namespace Scope

variable {s : Scope} {backoff : Backoff} {draws : Draws}

/-! ## The machines after a step -/

/-- The identity of the machine that is taken for the clone of the template, if
the clone has the kind of machines. -/
def decoy? (s : Scope) (draws : Draws) : Option Identity :=
  if clonedKind? s.templateRef.kind = some Kind.machine.name then
    (freshName s.templateRef.name draws.infrastructure).toOption.map (⟨s.ns, ·⟩)
  else none

/-- What a step that ended so did to the machines. -/
inductive Changes (s : Scope) (draws : Draws) (before after : Inventory) :
    Except Halt Outcome → Prop where
  /-- They are as they were. -/
  | stay {ended : Except Halt Outcome} (h : after.machines = before.machines) :
    Changes s draws before after ended
  /-- A new member joined. -/
  | joins {m : Machine} (hplan : s.plan.adds = true) (h : s.Joins draws before m after)
      (hdomain : m.failureDomain = s.nextDomain) :
    Changes s draws before after (.ok .soon)
  /-- The selected member left. -/
  | leaves {m : Machine} (hsize : s.desired < s.members.size)
      (hselect : s.select s.outdated = .ok m)
      (hstored : before.machines.contains m.identity = true)
      (h : after.machines = before.machines.erase m.identity) :
    Changes s draws before after (.ok .soon)
  /-- A machine was taken for the clone of an attempt that was undone. -/
  | mistaken {i : Identity} {halt : Halt} (hdecoy : s.decoy? draws = some i)
      (hstored : before.machines.contains i = true)
      (h : after.machines = before.machines.erase i) :
    Changes s draws before after (.error halt)

theorem Clones.changes {before : Memory} {r : Reference} {o : Unstructured}
    (h : s.Clones draws.infrastructure before r o) (kept : Memory)
    (hkept : kept.inventory.machines = before.inventory.machines) (rest : List Reference)
    (hrest : ∀ r ∈ rest, r.kind ≠ Kind.machine.name) {halt : Halt} :
    s.Changes draws before.inventory (Memory.store.clear (r :: rest) kept).2.inventory
      (.error halt) := by
  obtain ⟨kind, name, hcloned, hname, rfl, -⟩ := h.spec
  obtain hsame | ⟨hkind, hstored, herased⟩ := Memory.clear_machines (s := kept) _ hrest
  · exact .stay (hsame.trans hkept)
  · rw [hkept] at hstored herased
    obtain rfl : kind = Kind.machine.name := hkind
    have hdecoy : s.decoy? draws = some ⟨s.ns, name⟩ := by
      rw [decoy?, if_pos hcloned, hname]
      rfl
    exact .mistaken hdecoy hstored herased

/-- An attempt that failed took away a machine by mistake at most. -/
theorem ProvisionFails.changes {agentConfig : AgentConfig} {failureDomain : Option String}
    {before after : Memory} {made : List Item} {halt : Halt}
    (h : s.ProvisionFails draws agentConfig failureDomain before made halt after) :
    s.Changes draws before.inventory after.inventory (.error halt) := by
  cases h with
  | clone => exact .stay rfl
  | settingsUnnamed => exact .stay rfl
  | machineUnnamed => exact .stay rfl
  | @settings r o hclone =>
    exact hclone.changes (before.keep (.object r o)) rfl [] (by simp)
  | @machine r o c hclone =>
    have hkind : c.reference.kind ≠ Kind.machine.name :=
      (by decide : Kind.bootstrapConfig.name ≠ Kind.machine.name)
    have hapart : ∀ r ∈ [c.reference], r.kind ≠ Kind.machine.name := by simpa using hkind
    exact hclone.changes ((before.keep (.object r o)).keep (.config c)) rfl _ hapart

theorem StepEnds.changes {before after : Memory} {ended : Except Halt Outcome}
    (h : s.StepEnds backoff draws before ended after) :
    s.Changes draws before.inventory after.inventory ended := by
  cases h with
  | rests => exact .stay rfl
  | waits => exact .stay rfl
  | joins hattempts hprovisions =>
    have hdomain := hprovisions.failureDomain_eq
    exact .joins hattempts.adds hprovisions.joins.1 hdomain
  | fails _ hfails => exact hfails.changes
  | unasked => exact .stay rfl
  | founded => exact .stay rfl
  | leaves hsize hselect hanswer =>
    obtain ⟨hstored, herased⟩ := Memory.machines_of_delete_eq_ok hanswer
    exact .leaves hsize hselect hstored herased
  | gone => exact .stay rfl
  | refused => exact .stay rfl

/-- A step that does not ask for another one right away leaves the store as it
found it. -/
theorem StepEnds.eq_of_ne_soon {before after : Memory} {outcome : Outcome}
    (h : s.StepEnds backoff draws before (.ok outcome) after) (hne : outcome ≠ .soon) :
    after = before := by
  cases h with
  | rests => rfl
  | waits => rfl
  | joins => exact absurd rfl hne
  | leaves => exact absurd rfl hne
  | gone => rfl

/-! ## Names that are not in use -/

/-- The names that are drawn for a new machine and for the clone that comes with
it. -/
def drawnNames (s : Scope) (draws : Draws) : List String :=
  [freshName s.name draws.machine, freshName s.templateRef.name draws.infrastructure].filterMap
    Except.toOption

/-- No machine goes by a name that is drawn. -/
def Unclaimed (s : Scope) (draws : Draws) (machines : Members) : Prop :=
  ∀ name ∈ s.drawnNames draws, machines.contains ⟨s.ns, name⟩ = false

instance {machines : Members} : Decidable (s.Unclaimed draws machines) :=
  inferInstanceAs (Decidable (∀ name ∈ s.drawnNames draws, _))

theorem Unclaimed.contains_of_joins {before after : Inventory} {m : Machine}
    (h : s.Unclaimed draws before.machines) (hjoins : s.Joins draws before m after) :
    before.machines.contains m.identity = false := by
  obtain ⟨name, hname, hidentity⟩ := hjoins.identity
  rw [hidentity]
  exact h name (List.mem_filterMap.mpr ⟨_, List.mem_cons_self, by rw [hname]; rfl⟩)

theorem Unclaimed.contains_of_decoy {machines : Members} {i : Identity}
    (h : s.Unclaimed draws machines) (hdecoy : s.decoy? draws = some i) :
    machines.contains i = false := by
  unfold decoy? at hdecoy
  split at hdecoy
  · obtain ⟨name, hname, rfl⟩ := Option.map_eq_some_iff.mp hdecoy
    exact h name (List.mem_filterMap.mpr ⟨_, List.mem_cons_of_mem _ List.mem_cons_self, hname⟩)
  · cases hdecoy

end Scope

/-- The machines stayed, or a control plane got one that it manages, or one that
was stored is gone. -/
inductive ControlPlane.OneChange (p : ControlPlane) (before after : Members) : Prop where
  | none (h : after = before)
  | added (m : Machine) (hnew : before.contains m.identity = false) (hmanages : p.manages m = true)
      (h : after = before.insert m)
  | removed (m : Machine) (hstored : m ∈ before.toList) (h : after = before.erase m.identity)

/-- With names that are not in use a step changes one machine at most, and any
only when it asks for another one right away. -/
theorem Scope.Changes.oneChange {s : Scope} {draws : Draws} {before after : Inventory}
    {ended : Except Halt Outcome} (h : s.Changes draws before after ended)
    (hunclaimed : s.Unclaimed draws before.machines) :
    s.controlPlane.OneChange before.machines after.machines ∧
      (after.machines ≠ before.machines → ended = .ok .soon) := by
  cases h with
  | stay hsame => exact ⟨.none hsame, fun hne => absurd hsame hne⟩
  | joins _ hjoins =>
    have hmanages := (Bool.and_eq_true_iff.mp hjoins.owns).2
    exact ⟨.added _ (hunclaimed.contains_of_joins hjoins) hmanages hjoins.machines, fun _ => rfl⟩
  | leaves _ _ hstored herased =>
    obtain ⟨x, hx, hidentity⟩ := Keyed.contains_iff.mp hstored
    exact ⟨.removed x hx (hidentity ▸ herased), fun _ => rfl⟩
  | mistaken hdecoy hstored =>
    rw [hunclaimed.contains_of_decoy hdecoy] at hstored
    cases hstored

namespace Visit

/-- A pass whose step does not ask for another one right away leaves the store as it
found it, but for the status. -/
theorem after_of_ne_soon {v : Visit} {before : Memory} {s : Scope} {outcome : Outcome}
    (hscope : before.scope? v.controlPlane = some s)
    (houtcome : v.outcome? before = some (.ok outcome)) (hne : outcome ≠ .soon) :
    (v.turn before).after = before.note s v.now := by
  obtain ⟨ended, hended, -, hends⟩ := turn_ends hscope
  obtain rfl := Option.some.inj (hended.symm.trans houtcome)
  exact hends.eq_of_ne_soon hne

/-- A pass over a store in memory whose drawn names are not in use changes one
machine at most.  When it changes one, it ends well, and its step asks for
another pass right away; when it fails, the machines stay.  When its step has
nothing to do or has to wait, the store stays as it was, up to one status. -/
theorem turn_changes_one_machine (v : Visit) (before : Memory)
    (hunclaimed : ∀ s ∈ before.scope? v.controlPlane,
      s.Unclaimed v.draws before.inventory.machines) :
    let after := (v.turn before).after
    v.controlPlane.OneChange before.inventory.machines after.inventory.machines ∧
    (after.inventory.machines ≠ before.inventory.machines →
      (∃ action, (v.turn before).result = .ok action) ∧
        v.outcome? before = some (.ok .soon)) ∧
    (∀ halt, (v.turn before).result = .error halt →
      after.inventory.machines = before.inventory.machines) ∧
    ∀ outcome, v.outcome? before = some (.ok outcome) → outcome ≠ .soon →
      ∃ statuses, statuses.length ≤ 1 ∧
        after = { before with statuses := before.statuses ++ statuses } := by
  intro after
  cases hscope : before.scope? v.controlPlane with
  | none =>
    obtain ⟨hresult, hafter⟩ := turn_of_scope?_eq_none hscope
    have hsame : after.inventory.machines = before.inventory.machines :=
      congrArg (fun store : Memory => store.inventory.machines) hafter
    refine ⟨.none hsame, fun hne => absurd hsame hne, fun _ _ => hsame, fun outcome houtcome => ?_⟩
    rw [outcome?, hscope] at houtcome
    cases houtcome
  | some s =>
    obtain ⟨ended, houtcome, hresult, hends⟩ := turn_ends hscope
    have hchanges : s.Changes v.draws before.inventory after.inventory ended := by
      simpa using hends.changes
    obtain ⟨hone, hsoon⟩ := hchanges.oneChange (hunclaimed s hscope)
    rw [Memory.scope?_controlPlane hscope] at hone
    refine ⟨hone, fun hne => ?_, fun halt hhalt => ?_, fun outcome hended hne => ?_⟩
    · obtain rfl := hsoon hne
      exact ⟨⟨_, hresult⟩, houtcome⟩
    · by_contra hne
      rw [hresult, hsoon hne] at hhalt
      cases hhalt
    · obtain ⟨statuses, hlength, hnote⟩ := Memory.note_eq before s v.now
      exact ⟨statuses, hlength, (after_of_ne_soon hscope hended hne).trans hnote⟩

end Visit

/-- A store with one healthy member. -/
@[irreducible]
def Sample.small : Memory :=
  let now := Instant.ofSeconds epoch
  { memory ["az-1"] with
    inventory := (memory ["az-1"]).inventory.putMachine
      (machine now (controlPlane "cp" 1) "cp-a" (some "az-1") now) }

/-- A pass over the sample control plane, grown to two members. -/
def Sample.growth : Visit :=
  ⟨controlPlane "cp" 2, .ofSeconds epoch, .usual, ⟨.first, .first, .first⟩⟩

/-- A control plane that has to grow gets one machine that it manages, and the
pass asks for another one right away. -/
theorem growth_adds_one :
    (∃ m, (Sample.controlPlane "cp" 2).manages m = true ∧
      (Sample.growth.turn Sample.small).after.inventory.machines =
        Sample.small.inventory.machines.insert m) ∧
    Sample.growth.outcome? Sample.small = some (.ok .soon) := by
  have hsizes : (Sample.growth.turn Sample.small).after.inventory.machines.size = 2 ∧
      Sample.small.inventory.machines.size = 1 := by decide +kernel
  obtain ⟨hone, hchanged, -⟩ :=
    Sample.growth.turn_changes_one_machine Sample.small (by decide +kernel)
  have hne : (Sample.growth.turn Sample.small).after.inventory.machines ≠
      Sample.small.inventory.machines := by
    intro heq
    rw [heq] at hsizes
    omega
  refine ⟨?_, (hchanged hne).2⟩
  cases hone with
  | none hsame => exact absurd hsame hne
  | added m _ hmanages hafter => exact ⟨m, hmanages, hafter⟩
  | removed m hstored hafter =>
    have hsmaller := Keyed.size_erase hstored
    rw [← hafter] at hsmaller
    omega

end Roster
