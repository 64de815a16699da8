/-
Roster.Proofs.Undoing — deleting what was just created.

The log of creations shows a reference to everything that a store in memory
was given, and a clean-up deletes by such references.  Where a thing is kept
is up to the operation that created it, and where it is looked for is up to
the name of its kind.  The two agree unless an object is of a kind with the
name of those that are kept apart (`Draft.IsAmongItsKind`).  Such an object
is `Draft.IsStranded`: deleting it answers that it is not there, which a
clean-up takes for success, and it stays.  Everything else is
`Draft.IsUndone`.
-/
import Roster.Proofs.Cleanup
import Roster.Sample

namespace Roster

/-! ## Removing what was put -/

namespace Inventory

variable {inv : Inventory} {item : Item}

/-- The log of creations leads where the item's own reference leads. -/
theorem remove?_logged : inv.remove? item.logged = inv.remove? item.reference := by
  cases item with
  | object r o => rfl
  | machine m => rfl
  | config c =>
    show inv.remove? { c.reference with ns := some c.ns, uid := none } = inv.remove? c.reference
    unfold remove?
    rfl

/-- An object whose kind has the name of those that are kept apart is not found
where it was put. -/
theorem remove?_put_eq_none (hnew : inv.holds item.reference.key = false)
    (haddress : ¬ item.IsAddressed) : (item.put inv).remove? item.reference = none := by
  obtain ⟨-, hmachines, hconfigs⟩ := holds_eq_false_iff.mp hnew
  cases item with
  | object r o =>
    show (inv.putObject r.key o).remove? r = none
    unfold remove?
    split
    next hkind =>
      have hmachine : inv.machines.contains r.identity = false := hmachines hkind
      rw [putObject, hmachine]
      rfl
    next hkind =>
      have hconfig : r.kind = Kind.bootstrapConfig.name := by
        by_contra hother
        exact haddress ⟨hkind, hother⟩
      have hconfigs : inv.configs.contains r.identity = false := hconfigs hconfig
      rw [if_pos hconfig, putObject, hconfigs]
      rfl
  | config c => exact absurd trivial haddress
  | machine m => exact absurd trivial haddress

end Inventory

/-- Deleting by the log what was just created looks for it where its reference
leads. -/
theorem Memory.delete_logged {s : Memory} (hfaults : s.faults = []) (item : Item) :
    store.delete item.logged (s.keep item) =
      match (item.put s.inventory).remove? item.reference with
      | some inv => (.ok (), { s.keep item with
          inventory := inv
          deleted := s.deleted ++ [item.logged] })
      | none => (.error (.notFound item.logged.kind item.logged.name), s.keep item) := by
  have hrefuses : (s.keep item).refuses item.logged = false := by simp [refuses, hfaults]
  rw [delete_of_not_refuses hrefuses, drop?, keep_inventory, Inventory.remove?_logged]
  cases (item.put s.inventory).remove? item.reference <;> rfl

/-! ## Creating and deleting -/

/-- Something to be created. -/
inductive Draft where
  /-- An object of any kind. -/
  | object (o : Unstructured)
  | config (c : BootstrapConfig)
  | machine (m : Machine)

namespace Draft

/-- Create it, whatever it looks like then. -/
def create {σ : Type} (store : Store σ) : Draft → Call σ Unit
  | .object o => do let _ ← store.createObject o
  | .config c => do let _ ← store.createBootstrapConfig c
  | .machine m => do let _ ← store.createMachine m

/-- An object has to say its kind. -/
def IsTyped : Draft → Prop
  | .object o => ∃ kind, o.kind = some kind
  | _ => True

/-- The kind, the namespace and the name under which it will be stored. -/
def key : Draft → ObjectKey
  | .object o => ⟨o.kindName, o.ns, o.metadata.name.getD ""⟩
  | .config c => ⟨Kind.bootstrapConfig.name, c.ns, c.displayName⟩
  | .machine m => ⟨Kind.machine.name, m.ns, m.name⟩

/-- It will be kept where things of its kind are looked for. -/
def IsAmongItsKind : Draft → Prop
  | .object o => o.kindName ≠ Kind.machine.name ∧ o.kindName ≠ Kind.bootstrapConfig.name
  | _ => True

/-- Deleting by the reference that the log of creations shows succeeds, and is
logged; nothing but what was stored before is stored then. -/
def IsUndone (d : Draft) (s : Memory) : Prop :=
  ∃ made r gone, d.create Memory.store s = (.ok (), made) ∧ made.created = s.created ++ [r] ∧
    Memory.store.delete r made = (.ok (), gone) ∧ gone.deleted = s.deleted ++ [r] ∧
    gone.inventory = s.inventory

/-- Deleting by the reference that the log of creations shows answers that there is
no such object, so a clean-up has nothing to report; but there is. -/
def IsStranded (d : Draft) (s : Memory) : Prop :=
  ∃ made r e, d.create Memory.store s = (.ok (), made) ∧ made.created = s.created ++ [r] ∧
    Memory.store.delete r made = (.error e, made) ∧ e.isNotFound = true ∧
    Memory.store.clear [r] made = ([], made) ∧ made.inventory.objects.contains r.key = true

variable {d : Draft} {s : Memory}

theorem discard_apply {σ α : Type} {op : Call σ α} {s s' : σ} {a : α} (h : op s = (.ok a, s')) :
    (do let _ ← op : Call σ Unit) s = (.ok (), s') := by
  show (ExceptT.bindCont (fun _ => pure ()) (op s).1 : StateM σ (Except Error Unit)) (op s).2 = _
  rw [h]
  rfl

/-- A creation that is not told to fail keeps an item under the key. -/
theorem exists_create_eq (hfaults : s.faults = []) (htyped : d.IsTyped) :
    ∃ item, d.create Memory.store s = (.ok (), s.keep item) ∧ item.reference.key = d.key ∧
      (item.IsAddressed ↔ d.IsAmongItsKind) := by
  have hallowed (f : Fault) : f ∉ s.faults := by simp [hfaults]
  cases d with
  | object o =>
    obtain ⟨kind, hkind⟩ := htyped
    have hname : o.kindName = kind.name := by rw [Unstructured.kindName, hkind]
    have hcreate := Memory.createObject_eq (s := s) (o := o) (r := ⟨kind.apiVersion, kind.name,
      o.metadata.ns, o.metadata.name.getD "", some s.uid⟩) (by
        rw [Unstructured.reference?, hkind]
        rfl)
    rw [if_neg (hallowed _)] at hcreate
    refine ⟨.object _ _, discard_apply hcreate, ?_, ?_⟩
    · rw [key, hname]
      rfl
    · rw [IsAmongItsKind, hname]
      exact Iff.rfl
  | config c =>
    have hcreate := Memory.createBootstrapConfig_eq (s := s) (c := c)
    rw [if_neg (hallowed _)] at hcreate
    exact ⟨.config _, discard_apply hcreate, rfl, Iff.rfl⟩
  | machine m =>
    have hcreate := Memory.createMachine_eq (s := s) (m := m)
    rw [if_neg (hallowed _)] at hcreate
    exact ⟨.machine _, discard_apply hcreate, rfl, Iff.rfl⟩

/-- What is kept among its kind is undone. -/
theorem isUndone_of_isAmongItsKind (hfaults : s.faults = []) (htyped : d.IsTyped)
    (hnew : s.inventory.holds d.key = false) (h : d.IsAmongItsKind) : d.IsUndone s := by
  obtain ⟨item, hcreate, hkey, haddressed⟩ := exists_create_eq hfaults htyped
  have hremove : (item.put s.inventory).remove? item.reference = some s.inventory :=
    Inventory.remove?_put (Inventory.isNew_of_holds_eq_false (hkey ▸ hnew)) (haddressed.mpr h)
  have hdelete := Memory.delete_logged hfaults item
  rw [hremove] at hdelete
  exact ⟨_, item.logged, _, hcreate, rfl, hdelete, rfl, rfl⟩

/-- What is not kept among its kind is stranded. -/
theorem isStranded_of_not_isAmongItsKind (hfaults : s.faults = []) (htyped : d.IsTyped)
    (hnew : s.inventory.holds d.key = false) (h : ¬ d.IsAmongItsKind) : d.IsStranded s := by
  obtain ⟨item, hcreate, hkey, haddressed⟩ := exists_create_eq hfaults htyped
  have hremove : (item.put s.inventory).remove? item.reference = none :=
    Inventory.remove?_put_eq_none (hkey ▸ hnew) (haddressed.not.mpr h)
  have hdelete := Memory.delete_logged hfaults item
  rw [hremove] at hdelete
  refine ⟨_, item.logged, _, hcreate, rfl, hdelete, rfl, ?_, ?_⟩
  · rw [Store.clear, hdelete]
    rfl
  · cases item with
    | object r o => exact Keyed.contains_insert.mpr (.inl rfl)
    | config c => exact absurd (haddressed.mp trivial) h
    | machine m => exact absurd (haddressed.mp trivial) h

/-- Nothing is both undone and stranded. -/
theorem IsStranded.not_isUndone (h : d.IsStranded s) : ¬ d.IsUndone s := by
  obtain ⟨made, r, e, hcreate, hlog, hdelete, -⟩ := h
  rintro ⟨made', r', gone, hcreate', hlog', hdelete', -⟩
  obtain rfl : made = made' := congrArg Prod.snd (hcreate.symm.trans hcreate')
  obtain rfl : r = r' := List.singleton_inj.mp
    (List.append_cancel_left (hlog.symm.trans hlog'))
  cases congrArg Prod.fst (hdelete.symm.trans hdelete')

/-- In a store that is not told to fail, deleting undoes creating, for settings,
machines, and every object but those whose kind has the name of these; such an
object is stranded. -/
theorem creation_is_undone_among_its_kind (d : Draft) (s : Memory) (hfaults : s.faults = [])
    (htyped : d.IsTyped) (hnew : s.inventory.holds d.key = false) :
    (d.IsUndone s ↔ d.IsAmongItsKind) ∧ (¬ d.IsAmongItsKind → d.IsStranded s) := by
  have hstranded := isStranded_of_not_isAmongItsKind hfaults htyped hnew
  refine ⟨⟨fun hundone => ?_, isUndone_of_isAmongItsKind hfaults htyped hnew⟩, hstranded⟩
  by_contra h
  exact (hstranded h).not_isUndone hundone

end Draft

/-- An object of a kind with the name of the sample template. -/
def Sample.namesake (kind : String) : Draft := .object
  { kind := some ⟨infrastructureVersion, kind⟩
    metadata := { Metadata.named templateName with ns := some namespaceName }
    data := .empty }

/-- An object is undone under a name that an object of another kind has. -/
theorem namesake_is_undone :
    (Sample.memory ["az-1"]).inventory.holds (Sample.namesake "DockerMachine").key = false ∧
      (Sample.namesake "DockerMachine").IsUndone (Sample.memory ["az-1"]) := by
  have hnew : (Sample.memory ["az-1"]).inventory.holds (Sample.namesake "DockerMachine").key =
      false := by decide +kernel
  exact ⟨hnew, (Draft.creation_is_undone_among_its_kind (Sample.namesake "DockerMachine")
    (Sample.memory ["az-1"]) rfl ⟨_, rfl⟩ hnew).1.mpr ⟨by decide, by decide⟩⟩

/-- An object that is called a machine in another group is not undone, even in a
store without anything else. -/
theorem other_machine_is_not_undone :
    Memory.empty.faults = [] ∧ (Sample.namesake Kind.machine.name).IsTyped ∧
      Memory.empty.inventory.holds (Sample.namesake Kind.machine.name).key = false ∧
      ¬ (Sample.namesake Kind.machine.name).IsUndone Memory.empty := by
  have htyped : (Sample.namesake Kind.machine.name).IsTyped := ⟨_, rfl⟩
  have hnew : Memory.empty.inventory.holds (Sample.namesake Kind.machine.name).key = false := by
    decide +kernel
  exact ⟨rfl, htyped, hnew, (Draft.isStranded_of_not_isAmongItsKind rfl htyped hnew
    fun h => h.1 rfl).not_isUndone⟩

end Roster
