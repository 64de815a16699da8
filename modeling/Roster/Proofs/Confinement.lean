/-
Roster.Proofs.Confinement — a pass touches only what belongs to its control
plane.

A store in memory deletes by kind, namespace and name, and asks nobody whose
the object is.  So what keeps a pass from another control plane's objects is
which references it gets to delete: a member it lists and manages, or what it
has just created under names that were not in use.

`Inventory.Keeps` says which stored things are just so in a later inventory.
It is kept by putting and by removing whatever was not stored at first
(`Keeps.put`, `Keeps.remove?`), hence by every attempt, undone or not.
`Run.stays_confined` puts this together for any passes in any order.
-/
import Roster.Proofs.Founding
import Roster.Proofs.Listed

namespace Roster

namespace Inventory

variable {inv before after : Inventory} {spared : Machine → Prop}

/-- Everything that is stored in `before` is stored in `after` just so, of the
machines those that are `spared`. -/
structure Keeps (spared : Machine → Prop) (before after : Inventory) : Prop where
  machines : ∀ m ∈ before.machines.toList, spared m → m ∈ after.machines.toList
  clusters : after.clusters = before.clusters
  configs : ∀ c ∈ before.configs.toList, c ∈ after.configs.toList
  objects : ∀ entry ∈ before.objects.toList, entry ∈ after.objects.toList

namespace Keeps

theorem refl (spared : Machine → Prop) (inv : Inventory) : Keeps spared inv inv :=
  ⟨fun _ hm _ => hm, rfl, fun _ hc => hc, fun _ ho => ho⟩

theorem trans (h : Keeps spared before inv) (h' : Keeps spared inv after) :
    Keeps spared before after :=
  ⟨fun m hm hspared => h'.machines m (h.machines m hm hspared) hspared,
    h'.clusters.trans h.clusters, fun c hc => h'.configs c (h.configs c hc),
    fun o ho => h'.objects o (h.objects o ho)⟩

theorem mono {spared' : Machine → Prop} (h : Keeps spared before after)
    (hspared : ∀ m ∈ before.machines.toList, spared' m → spared m) :
    Keeps spared' before after :=
  { h with machines := fun m hm h' => h.machines m hm (hspared m hm h') }

/-- An item may be put where nothing was stored at first. -/
theorem put (h : Keeps spared before inv) (item : Item)
    (hnew : before.holds item.reference.key = false) : Keeps spared before (item.put inv) := by
  obtain ⟨hobjects, hmachines, hconfigs⟩ := holds_eq_false_iff.mp hnew
  cases item with
  | object r o =>
    refine { h with objects := fun entry hentry => ?_ }
    have hne := Keyed.contains_eq_false_iff.mp hobjects entry hentry
    exact Keyed.mem_insert.mpr (.inr ⟨h.objects entry hentry, hne⟩)
  | config c =>
    refine { h with configs := fun x hx => ?_ }
    have hne := Keyed.contains_eq_false_iff.mp (hconfigs rfl) x hx
    exact Keyed.mem_insert.mpr (.inr ⟨h.configs x hx, hne⟩)
  | machine m =>
    refine { h with machines := fun x hx hspared => ?_ }
    have hne := Keyed.contains_eq_false_iff.mp (hmachines rfl) x hx
    exact Keyed.mem_insert.mpr (.inr ⟨h.machines x hx hspared, hne⟩)

/-- What a reference leads to may be removed if nothing was stored there at
first. -/
theorem remove? (h : Keeps spared before inv) {r : Reference}
    (hnew : before.holds r.key = false) (hremove : inv.remove? r = some after) :
    Keeps spared before after := by
  obtain ⟨hobjects, hmachines, hconfigs⟩ := holds_eq_false_iff.mp hnew
  -- One case for each kind that is kept apart, and one for the objects.
  unfold Inventory.remove? at hremove
  split at hremove
  next hkind =>
    split at hremove <;> cases hremove
    refine { h with machines := fun m hm hspared => ?_ }
    have hne := Keyed.contains_eq_false_iff.mp (hmachines hkind) m hm
    exact Keyed.mem_erase.mpr ⟨h.machines m hm hspared, hne⟩
  · split at hremove
    next hkind =>
      split at hremove <;> cases hremove
      refine { h with configs := fun c hc => ?_ }
      have hne := Keyed.contains_eq_false_iff.mp (hconfigs hkind) c hc
      exact Keyed.mem_erase.mpr ⟨h.configs c hc, hne⟩
    · split at hremove <;> cases hremove
      refine { h with objects := fun entry hentry => ?_ }
      have hne := Keyed.contains_eq_false_iff.mp hobjects entry hentry
      exact Keyed.mem_erase.mpr ⟨h.objects entry hentry, hne⟩

theorem remove?_machine {m : Machine} (hm : m ∈ before.machines.toList) (hnot : ¬ spared m)
    (hremove : before.remove? m.reference = some after) : Keeps spared before after := by
  rw [Inventory.remove?_machine] at hremove
  split at hremove <;> cases hremove
  refine { refl spared before with machines := fun x hx hspared => ?_ }
  refine Keyed.mem_erase.mpr ⟨hx, fun hidentity => hnot ?_⟩
  rwa [before.machines.eq_of_key_eq hm hx hidentity.symm]

theorem clear {s : Memory} {refs : List Reference} (h : Keeps spared before s.inventory)
    (hnew : ∀ r ∈ refs, before.holds r.key = false) :
    Keeps spared before (Memory.store.clear refs s).2.inventory := by
  induction refs generalizing s with
  | nil => exact h
  | cons r rest ih =>
    have hdeleted : Keeps spared before (Memory.store.delete r s).2.inventory := by
      obtain hsame | hremove := Memory.delete_inventory r s
      · rwa [hsame]
      · exact h.remove? (hnew r List.mem_cons_self) hremove
    rw [Store.clear]
    exact ih hdeleted fun x hx => hnew x (List.mem_cons_of_mem _ hx)

end Keeps

end Inventory

/-! ## A step -/

namespace Scope

variable {s : Scope} {draws : Draws} {backoff : Backoff} {agentConfig : AgentConfig}
  {failureDomain : Option String} {before after : Memory} {inv : Inventory}

/-- Where the objects of a new member go that are made from `draws`. -/
def drawnKeys (s : Scope) (draws : Draws) : List ObjectKey :=
  let key (kind name : String) (suffix : Suffix) : Option ObjectKey :=
    (freshName name suffix).toOption.map (⟨kind, s.ns, ·⟩)
  List.filterMap id
    [(clonedKind? s.templateRef.kind).bind (key · s.templateRef.name draws.infrastructure),
      key Kind.bootstrapConfig.name s.name draws.bootstrap,
      key Kind.machine.name s.name draws.machine]

/-- The names that are drawn are not in use. -/
def DrawsUnused (s : Scope) (draws : Draws) (inv : Inventory) : Prop :=
  ∀ key ∈ s.drawnKeys draws, inv.holds key = false

instance : Decidable (s.DrawsUnused draws inv) :=
  inferInstanceAs (Decidable (∀ key ∈ s.drawnKeys draws, inv.holds key = false))

theorem Clones.holds_eq_false {r : Reference} {o : Unstructured}
    (h : s.Clones draws.infrastructure before r o) (hunused : s.DrawsUnused draws inv) :
    inv.holds r.key = false := by
  obtain ⟨kind, name, hkind, hname, rfl, -⟩ := h.spec
  refine hunused _ (List.mem_filterMap.mpr ⟨_, ?_, rfl⟩)
  simp [hkind, hname, Reference.key, Except.toOption]

theorem Settles.holds_eq_false {c : BootstrapConfig}
    (h : s.Settles draws.bootstrap agentConfig before c) (hunused : s.DrawsUnused draws inv) :
    inv.holds c.reference.key = false := by
  obtain ⟨name, hname, hidentity, -⟩ := h.spec
  have hkey : c.reference.key = ⟨Kind.bootstrapConfig.name, s.ns, name⟩ :=
    congrArg (fun i : Identity => ObjectKey.mk Kind.bootstrapConfig.name i.ns i.name) hidentity
  refine hunused _ (List.mem_filterMap.mpr ⟨_, ?_, rfl⟩)
  simp [hname, hkey, Except.toOption]

theorem Enrolls.holds_eq_false {infrastructure bootstrap : Reference} {m : Machine}
    (h : s.Enrolls draws.machine infrastructure bootstrap failureDomain before m)
    (hunused : s.DrawsUnused draws inv) : inv.holds m.reference.key = false := by
  obtain ⟨name, hname, hidentity, -⟩ := h.spec
  have hkey : m.reference.key = ⟨Kind.machine.name, s.ns, name⟩ :=
    congrArg (fun i : Identity => ObjectKey.mk Kind.machine.name i.ns i.name) hidentity
  refine hunused _ (List.mem_filterMap.mpr ⟨_, ?_, rfl⟩)
  simp [hname, hkey, Except.toOption]

variable {spared : Machine → Prop}

theorem Provisions.keeps {m : Machine}
    (h : s.Provisions draws agentConfig failureDomain before m after)
    (hunused : s.DrawsUnused draws before.inventory) :
    before.inventory.Keeps spared after.inventory := by
  obtain ⟨hclone, hsettings, hmachine⟩ := h
  rename_i r o c
  -- Every name is new to the store that the attempt began with, not only to the last one.
  have hobject := (Inventory.Keeps.refl spared _).put (.object r o) (hclone.holds_eq_false hunused)
  have hconfig := hobject.put (.config c) (hsettings.holds_eq_false hunused)
  exact hconfig.put (.machine m) (hmachine.holds_eq_false hunused)

theorem ProvisionFails.keeps {made : List Item} {halt : Halt}
    (h : s.ProvisionFails draws agentConfig failureDomain before made halt after)
    (hunused : s.DrawsUnused draws before.inventory) :
    before.inventory.Keeps spared after.inventory := by
  have hkept := Inventory.Keeps.refl spared before.inventory
  cases h with
  | clone => exact hkept
  | @settingsUnnamed r o hclone =>
    exact hkept.put (.object r o) (hclone.holds_eq_false hunused)
  | @settings r o hclone =>
    have hnew := hclone.holds_eq_false hunused
    refine Inventory.Keeps.clear (hkept.put (.object r o) hnew) ?_
    simpa using hnew
  | @machineUnnamed r o c hclone hsettings =>
    have hobject := hkept.put (.object r o) (hclone.holds_eq_false hunused)
    exact hobject.put (.config c) (hsettings.holds_eq_false hunused)
  | @machine r o c hclone hsettings =>
    have hnew := hclone.holds_eq_false hunused
    have hnew' := hsettings.holds_eq_false hunused
    refine Inventory.Keeps.clear ((hkept.put (.object r o) hnew).put (.config c) hnew') ?_
    simpa using ⟨hnew, hnew'⟩

/-- A step on stored members keeps all but the machines that the control plane
owns. -/
theorem StepEnds.keeps {ended : Except Halt Outcome}
    (h : s.StepEnds backoff draws before ended after)
    (hunused : s.DrawsUnused draws before.inventory)
    (hmembers : s.members = before.inventory.machines.filter s.owns) :
    before.inventory.Keeps (fun m => s.owns m = false) after.inventory := by
  cases h with
  | joins _ hprovisions => exact hprovisions.keeps hunused
  | fails _ hfails => exact hfails.keeps hunused
  | leaves _ hselect hanswer =>
    -- The deletion goes by the name of the member, and only the member has it.
    obtain ⟨inv, hremove, rfl⟩ :=
      Option.map_eq_some_iff.mp (Memory.drop?_of_delete_eq_ok hanswer)
    have hm := mem_of_select (fun _ => outdated_subset) hselect
    rw [hmembers] at hm
    obtain ⟨hstored, howned⟩ := Keyed.mem_filter.mp hm
    exact .remove?_machine hstored (by simp [howned]) hremove
  | _ => exact .refl _ _

end Scope

/-! ## A pass -/

namespace ControlPlane

variable {p : ControlPlane} {m : Machine}

/-- A machine that is none of a control plane's business: it is not managed by
it, or is in another namespace, or names another cluster. -/
def IsForeign (p : ControlPlane) (m : Machine) : Prop :=
  p.manages m = false ∨ m.ns ≠ p.ns ∨
    p.metadata.ownerName? Kind.cluster.name ≠ some m.spec.clusterName

theorem IsForeign.lists_eq_false (h : p.IsForeign m) : p.lists m = false := by
  unfold lists
  cases howner : p.metadata.ownerName? Kind.cluster.name with
  | none => rfl
  | some clusterName =>
    dsimp only
    obtain hmanages | hns | hcluster := h
    · rw [hmanages, Bool.and_false]
    · simp [Inventory.belongs, hns]
    · have hne : m.spec.clusterName ≠ clusterName := fun heq => hcluster (heq ▸ howner)
      simp [Inventory.belongs, hne]

end ControlPlane

/-- A pass that decides on stored members keeps everything that its control plane
does not own. -/
theorem Visit.turn_keeps {v : Visit} {before : Memory} (hunpinned : before.pinned = none)
    (hunused : ∀ s ∈ before.scope? v.controlPlane, s.DrawsUnused v.draws before.inventory) :
    before.inventory.Keeps v.controlPlane.IsForeign (v.turn before).after.inventory := by
  cases hscope : before.scope? v.controlPlane with
  | none =>
    rw [(turn_of_scope?_eq_none hscope).2]
    exact .refl _ _
  | some s =>
    obtain ⟨ended, -, -, hends⟩ := turn_ends hscope
    have howns : s.owns = v.controlPlane.lists := Memory.owns_eq_lists hscope
    have hmembers : s.members = before.inventory.machines.filter s.owns := by
      rw [Memory.members_eq_roster hscope hunpinned ⟨rfl, rfl, rfl⟩, Memory.roster, howns]
    have hkeeps := hends.keeps (by simpa using hunused s hscope) (by simpa using hmembers)
    rw [Memory.note_inventory, howns] at hkeeps
    exact hkeeps.mono fun m _ hforeign => hforeign.lists_eq_false

/-- In a run of passes over any control planes, every pass leaves untouched the
machines that its control plane does not own, and all clusters, settings and
other objects, the templates among them.  So what is foreign to all control
planes of the run, and is left alone between passes, is untouched in the end.
The names that are drawn must not be in use. -/
theorem Run.stays_confined {between : Memory → Memory → Prop} {start final : Memory}
    {turns : List Turn} (h : Run between start turns final) (hunpinned : start.pinned = none)
    (hwait : ∀ s s', between s s' → s.pinned = none → s'.pinned = none)
    (hunused : ∀ turn ∈ turns, ∀ s ∈ turn.scope?,
      s.DrawsUnused turn.visit.draws turn.before.inventory) :
    (∀ turn ∈ turns, turn.before.inventory.Keeps turn.visit.controlPlane.IsForeign
      turn.after.inventory) ∧
    ∀ foreign : Machine → Prop,
      (∀ turn ∈ turns, ∀ m, foreign m → turn.visit.controlPlane.IsForeign m) →
      (∀ s s', between s s' → s.inventory.Keeps foreign s'.inventory) →
      start.inventory.Keeps foreign final.inventory := by
  have hturn (v : Visit) (s : Memory) (hmem : v.turn s ∈ turns) (hs : s.pinned = none) :
      s.inventory.Keeps v.controlPlane.IsForeign (v.turn s).after.inventory :=
    Visit.turn_keeps hs (hunused _ hmem)
  have hkept (v : Visit) (s : Memory) (hs : s.pinned = none) :
      (v.turn s).after.pinned = none := (v.turn_pinned s).trans hs
  refine ⟨fun turn hmem => ?_, fun foreign hforeign hleft => ?_⟩
  · obtain ⟨hturns, -⟩ := h.invariant (fun s => s.pinned = none) hunpinned
      (fun s s' hs hbetween => hwait s s' hbetween hs) fun v s _ => hkept v s
    obtain ⟨v, s, rfl⟩ := h.exists_eq_turn turn hmem
    exact hturn v s hmem (hturns _ hmem).1
  · obtain ⟨-, -, hfinal⟩ := h.invariant
      (fun s => s.pinned = none ∧ start.inventory.Keeps foreign s.inventory)
      ⟨hunpinned, .refl _ _⟩
      (fun s s' hs hbetween => ⟨hwait s s' hbetween hs.1, hs.2.trans (hleft s s' hbetween)⟩)
      fun v s hmem hs => ⟨hkept v s hs.1, hs.2.trans
        ((hturn v s hmem hs.1).mono fun m _ hm => hforeign _ hmem m hm)⟩
    exact hfinal

/-- Another control plane of the sample cluster, which should have two members. -/
def Sample.neighbour : ControlPlane :=
  let p := controlPlane "cp-2" 2
  { p with metadata := { p.metadata with uid := some "neighbour-uid" } }

/-- A store in which the sample control plane has a member too many, and its
neighbour one too few. -/
@[irreducible]
def Sample.shared : Memory :=
  let now := Instant.ofSeconds epoch
  let member (p : ControlPlane) (name : String) := machine now p name (some "az-1") now
  { memory ["az-1"] with
    inventory := (((memory ["az-1"]).inventory.putMachine
      (member (controlPlane "cp" 1) "cp-a")).putMachine
      (member (controlPlane "cp" 1) "cp-b")).putMachine (member neighbour "cp-2-a") }

/-- Two control planes share a cluster.  One loses a member and the other gets
one, and neither touches what is the other's. -/
theorem neighbours_stay_apart :
    let p := Sample.controlPlane "cp" 1
    let first := Sample.visit.turn Sample.shared
    let second := Visit.turn { Sample.visit with controlPlane := Sample.neighbour } first.after
    (first.after.roster p).size = 1 ∧
      (second.after.roster Sample.neighbour).size = 2 ∧
      Sample.shared.inventory.Keeps p.IsForeign first.after.inventory ∧
      first.after.inventory.Keeps Sample.neighbour.IsForeign second.after.inventory := by
  intro p first second
  have hrun : Run Eq Sample.shared [first, second] second.after := .cons rfl (.cons rfl (.nil _))
  -- Everything that has to be computed is computed at once.
  have hfacts : (∀ turn ∈ [first, second], ∀ s ∈ turn.scope?,
        s.DrawsUnused turn.visit.draws turn.before.inventory) ∧
      Sample.shared.pinned = none ∧ (first.after.roster p).size = 1 ∧
      (second.after.roster Sample.neighbour).size = 2 := by decide +kernel
  obtain ⟨hunused, hunpinned, hone, htwo⟩ := hfacts
  obtain ⟨hkeeps, -⟩ :=
    hrun.stays_confined hunpinned (fun s s' heq hs => heq ▸ hs) hunused
  exact ⟨hone, htwo, hkeeps first (by simp), hkeeps second (by simp)⟩

end Roster
