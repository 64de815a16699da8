/-
Roster.Proofs.Memory — what creating and deleting does to a store in
memory.

An `Item` is something such a store keeps, with the reference by which it
can be deleted again.  `Memory.keep` is the store after a creation, and
every creation either fails as told or keeps an item (`createObject_eq`,
`createBootstrapConfig_eq`, `createMachine_eq`).  `remove?_put` says that
deleting a new item by its reference gives back what was there before.

Objects of kinds with a type of their own are stored apart, so an object
whose kind has the name of one of those is not found by its reference;
`Item.IsAddressed` excludes that.
-/
import Roster.Proofs.Keyed
import Roster.Proofs.Pass
import Roster.Store.Memory

namespace Roster

/-- Something that a store in memory keeps. -/
inductive Item where
  /-- An object of any kind, with the reference to it. -/
  | object (r : Reference) (o : Unstructured)
  | config (c : BootstrapConfig)
  | machine (m : Machine)

namespace Item

/-- The reference to an item. -/
def reference : Item → Reference
  | .object r _ => r
  | .config c => c.reference
  | .machine m => m.reference

/-- The reference that the log of creations shows. -/
def logged : Item → Reference
  | .config c => { c.reference with ns := some c.ns, uid := none }
  | item => item.reference

/-- Put an item among other objects. -/
def put (inv : Inventory) : Item → Inventory
  | .object r o => inv.putObject r.key o
  | .config c => inv.putConfig c
  | .machine m => inv.putMachine m

/-- Whether nothing is stored yet where the item goes. -/
def isNew (inv : Inventory) : Item → Bool
  | .object r _ => !inv.objects.contains r.key
  | .config c => !inv.configs.contains c.identity
  | .machine m => !inv.machines.contains m.identity

/-- The item is found where its reference leads. -/
def IsAddressed : Item → Prop
  | .object r _ => r.kind ≠ Kind.machine.name ∧ r.kind ≠ Kind.bootstrapConfig.name
  | _ => True

end Item

namespace Inventory

variable {inv : Inventory} {r : Reference} {key : ObjectKey}

theorem remove?_object (hmachine : r.kind ≠ Kind.machine.name)
    (hconfig : r.kind ≠ Kind.bootstrapConfig.name) :
    inv.remove? r = if inv.objects.contains r.key then
      some { inv with objects := inv.objects.erase r.key } else none := by
  rw [remove?, if_neg hmachine, if_neg hconfig]

theorem remove?_config {c : BootstrapConfig} :
    inv.remove? c.reference = if inv.configs.contains c.identity then
      some { inv with configs := inv.configs.erase c.identity } else none := by
  have hkind : c.reference.kind = Kind.bootstrapConfig.name := rfl
  rw [remove?, hkind, if_neg (by decide), if_pos rfl]
  rfl

theorem remove?_machine {m : Machine} :
    inv.remove? m.reference = if inv.machines.contains m.identity then
      some { inv with machines := inv.machines.erase m.identity } else none := by
  have hkind : m.reference.kind = Kind.machine.name := rfl
  rw [remove?, hkind, if_pos rfl]
  rfl

/-- The machines after an object was removed. -/
theorem machines_of_remove? {after : Inventory} (h : inv.remove? r = some after) :
    r.kind ≠ Kind.machine.name ∧ after.machines = inv.machines ∨
      r.kind = Kind.machine.name ∧ inv.machines.contains r.identity = true ∧
        after.machines = inv.machines.erase r.identity := by
  unfold remove? at h
  split at h
  next hkind =>
    split at h
    next hfound =>
      cases h
      exact .inr ⟨hkind, hfound, rfl⟩
    · cases h
  next hkind =>
    refine .inl ⟨hkind, ?_⟩
    split at h <;> split at h <;> cases h <;> rfl

theorem clusters_of_remove? {after : Inventory} (h : inv.remove? r = some after) :
    after.clusters = inv.clusters := by
  unfold remove? at h
  split at h
  · split at h <;> cases h
    rfl
  · split at h <;> split at h <;> cases h <;> rfl

/-- Whether something is stored under a kind, a namespace and a name.  An object
may have the kind of things that are kept apart from the objects. -/
def holds (inv : Inventory) (key : ObjectKey) : Bool :=
  inv.objects.contains key ||
    key.kind == Kind.machine.name && inv.machines.contains ⟨key.ns, key.name⟩ ||
    key.kind == Kind.bootstrapConfig.name && inv.configs.contains ⟨key.ns, key.name⟩

theorem holds_eq_false_iff :
    inv.holds key = false ↔ inv.objects.contains key = false ∧
      (key.kind = Kind.machine.name → inv.machines.contains ⟨key.ns, key.name⟩ = false) ∧
      (key.kind = Kind.bootstrapConfig.name →
        inv.configs.contains ⟨key.ns, key.name⟩ = false) := by
  simp [holds, and_assoc]

/-- An item is new where nothing is stored yet. -/
theorem isNew_of_holds_eq_false {item : Item} (h : inv.holds item.reference.key = false) :
    item.isNew inv = true := by
  obtain ⟨hobjects, hmachines, hconfigs⟩ := holds_eq_false_iff.mp h
  cases item with
  | object r o => exact congrArg not hobjects
  | config c => exact congrArg not (hconfigs rfl)
  | machine m => exact congrArg not (hmachines rfl)

/-- Deleting a new item by its reference undoes putting it. -/
theorem remove?_put {item : Item} (hnew : item.isNew inv = true) (haddress : item.IsAddressed) :
    (item.put inv).remove? item.reference = some inv := by
  cases item with
  | object r o =>
    have hfound : (inv.objects.put r.key o).contains r.key = true :=
      Keyed.contains_insert.mpr (.inl rfl)
    have herase : (inv.objects.put r.key o).erase r.key = inv.objects :=
      Keyed.erase_insert (by simpa [Item.isNew] using hnew)
    simp only [Item.put, Item.reference, putObject, remove?_object haddress.1 haddress.2, hfound,
      herase, if_true]
  | config c =>
    have hfound : (inv.configs.insert c).contains c.identity = true :=
      Keyed.contains_insert.mpr (.inl rfl)
    have herase : (inv.configs.insert c).erase c.identity = inv.configs :=
      Keyed.erase_insert (by simpa [Item.isNew] using hnew)
    simp only [Item.put, Item.reference, putConfig, remove?_config, hfound, herase, if_true]
  | machine m =>
    have hfound : (inv.machines.insert m).contains m.identity = true :=
      Keyed.contains_insert.mpr (.inl rfl)
    have herase : (inv.machines.insert m).erase m.identity = inv.machines :=
      Keyed.erase_insert (by simpa [Item.isNew] using hnew)
    simp only [Item.put, Item.reference, putMachine, remove?_machine, hfound, herase, if_true]

end Inventory

namespace Memory

variable {s : Memory} {r : Reference}

/-! ## Creating -/

/-- The store after an item was created. -/
def keep (s : Memory) (item : Item) : Memory :=
  { s with
    inventory := item.put s.inventory
    created := s.created ++ [item.logged]
    uids := s.uids + 1 }

@[simp] theorem keep_inventory (item : Item) :
    (s.keep item).inventory = item.put s.inventory := rfl

@[simp] theorem keep_created (item : Item) :
    (s.keep item).created = s.created ++ [item.logged] := rfl

@[simp] theorem keep_deleted (item : Item) : (s.keep item).deleted = s.deleted := rfl

@[simp] theorem keep_faults (item : Item) : (s.keep item).faults = s.faults := rfl

@[simp] theorem keep_pinned (item : Item) : (s.keep item).pinned = s.pinned := rfl

@[simp] theorem keep_apiCode (item : Item) : (s.keep item).apiCode = s.apiCode := rfl

@[simp] theorem keep_statuses (item : Item) : (s.keep item).statuses = s.statuses := rfl

/-- The uid that the next creation gives. -/
def uid (s : Memory) : String := s.nextUid.1

/-- Metadata of a created object. -/
def stamp (s : Memory) (m : Metadata) : Metadata := { m with uid := some s.uid }

theorem fault?_eq {f : Fault} :
    s.fault? f = if f ∈ s.faults then some (s.faultError f) else none := rfl

theorem getObject_eq :
    store.getObject r s = match s.inventory.objects.lookup r.key with
      | some o => (.ok o, s)
      | none => (.error (.notFound r.kind r.name), s) := rfl

theorem listMachinesUncached_eq {ns cluster : String} :
    store.listMachinesUncached ns cluster s =
      if .listUncached ∈ s.faults then (.error (s.faultError .listUncached), s)
      else (.ok (s.inventory.machinesOf ns cluster), s) := by
  simp only [store, fault?_eq]
  by_cases hfault : Fault.listUncached ∈ s.faults
  · rw [if_pos hfault, if_pos hfault]
  · rw [if_neg hfault, if_neg hfault]

theorem createObject_eq {o : Unstructured}
    (hr : Unstructured.reference? { o with metadata := s.stamp o.metadata } = some r) :
    store.createObject o s =
      if .createObject ∈ s.faults then (.error (s.faultError .createObject), s)
      else
        let o := { o with metadata := s.stamp o.metadata }
        (.ok o, s.keep (.object r o)) := by
  show createObject o s = _
  rw [createObject, fault?_eq]
  by_cases hfault : Fault.createObject ∈ s.faults
  · rw [if_pos hfault, if_pos hfault]
  · rw [if_neg hfault, if_neg hfault]
    have hr : Unstructured.reference?
        { o with metadata := { o.metadata with uid := some s.nextUid.1 } } = some r := hr
    dsimp only
    rw [hr]
    rfl

theorem createBootstrapConfig_eq {c : BootstrapConfig} :
    store.createBootstrapConfig c s =
      if .createBootstrapConfig ∈ s.faults then
        (.error (s.faultError .createBootstrapConfig), s)
      else
        let c := { c with metadata := s.stamp c.metadata }
        (.ok c, s.keep (.config c)) := by
  show createBootstrapConfig c s = _
  rw [createBootstrapConfig, fault?_eq]
  by_cases hfault : Fault.createBootstrapConfig ∈ s.faults
  · rw [if_pos hfault, if_pos hfault]
  · rw [if_neg hfault, if_neg hfault]
    rfl

theorem createMachine_eq {m : Machine} :
    store.createMachine m s =
      if .createMachine ∈ s.faults then (.error (s.faultError .createMachine), s)
      else
        let m : Machine := { m with metadata := s.stamp m.metadata }
        (.ok m, s.keep (.machine m)) := by
  show createMachine m s = _
  rw [createMachine, fault?_eq]
  by_cases hfault : Fault.createMachine ∈ s.faults
  · rw [if_pos hfault, if_pos hfault]
  · rw [if_neg hfault, if_neg hfault]
    rfl

/-! ## Deleting -/

/-- Whether a deletion is told to fail. -/
def refuses (s : Memory) (r : Reference) : Bool :=
  .delete r.name ∈ s.faults || .deleteAny ∈ s.faults

/-- The store after an object was deleted, if there was one. -/
def drop? (s : Memory) (r : Reference) : Option Memory :=
  (s.inventory.remove? r).map fun inventory =>
    { s with inventory := inventory, deleted := s.deleted ++ [r] }

/-- A refused deletion changes nothing, and its failure only says that the
object is not there when the code is that of such an answer. -/
theorem delete_of_refuses (h : s.refuses r = true) :
    ∃ e, store.delete r s = (.error e, s) ∧ (e.isNotFound = true ↔ s.apiCode = some 404) := by
  have hnotFound (f : Fault) : (s.faultError f).isNotFound = true ↔ s.apiCode = some 404 := by
    unfold faultError
    cases s.apiCode with
    | none => simp [Error.isNotFound]
    | some code => simp [apiError, Error.isNotFound]
  show ∃ e, delete r s = (.error e, s) ∧ _
  rw [delete, fault?_eq, fault?_eq]
  by_cases hname : Fault.delete r.name ∈ s.faults
  · rw [if_pos hname]
    exact ⟨_, rfl, hnotFound _⟩
  · have hany : Fault.deleteAny ∈ s.faults := by simpa [refuses, hname] using h
    rw [if_neg hname, if_pos hany]
    exact ⟨_, rfl, hnotFound _⟩

theorem delete_of_not_refuses (h : s.refuses r = false) :
    store.delete r s = match s.drop? r with
      | some s' => (.ok (), s')
      | none => (.error (.notFound r.kind r.name), s) := by
  have hfaults : Fault.delete r.name ∉ s.faults ∧ Fault.deleteAny ∉ s.faults := by
    simpa [refuses] using h
  show delete r s = _
  rw [delete, fault?_eq, fault?_eq, if_neg hfaults.1, if_neg hfaults.2, drop?]
  cases s.inventory.remove? r <;> rfl

/-- A deletion that fails changes nothing. -/
theorem eq_of_delete_eq_error {s' : Memory} {e : Error} (h : store.delete r s = (.error e, s')) :
    s = s' := by
  cases hrefuses : s.refuses r with
  | true =>
    obtain ⟨_, hdelete, -⟩ := delete_of_refuses hrefuses
    rw [hdelete] at h
    exact congrArg Prod.snd h
  | false =>
    rw [delete_of_not_refuses hrefuses] at h
    cases hdrop : s.drop? r with
    | some _ =>
      rw [hdrop] at h
      cases h
    | none =>
      rw [hdrop] at h
      exact congrArg Prod.snd h

/-- A deletion that succeeds removes an object. -/
theorem drop?_of_delete_eq_ok {s' : Memory} (h : store.delete r s = (.ok (), s')) :
    s.drop? r = some s' := by
  cases hrefuses : s.refuses r with
  | true =>
    obtain ⟨_, hdelete, -⟩ := delete_of_refuses hrefuses
    rw [hdelete] at h
    cases h
  | false =>
    rw [delete_of_not_refuses hrefuses] at h
    cases hdrop : s.drop? r with
    | some _ =>
      rw [hdrop] at h
      exact congrArg some (congrArg Prod.snd h)
    | none =>
      rw [hdrop] at h
      cases h

/-- What deleting does to what is stored: nothing, or it removes an object. -/
theorem delete_inventory (r : Reference) (s : Memory) :
    (store.delete r s).2.inventory = s.inventory ∨
      s.inventory.remove? r = some (store.delete r s).2.inventory := by
  rcases hanswer : store.delete r s with ⟨e | _, s'⟩
  · exact .inl (congrArg inventory (eq_of_delete_eq_error hanswer).symm)
  · obtain ⟨inv, hremove, rfl⟩ := Option.map_eq_some_iff.mp (drop?_of_delete_eq_ok hanswer)
    exact .inr hremove

/-- What deleting does to the machines: nothing, or it takes away a stored one
that the reference leads to. -/
theorem delete_machines (r : Reference) (s : Memory) :
    (store.delete r s).2.inventory.machines = s.inventory.machines ∨
      r.kind = Kind.machine.name ∧ s.inventory.machines.contains r.identity = true ∧
        (store.delete r s).2.inventory.machines = s.inventory.machines.erase r.identity := by
  obtain hsame | hremove := delete_inventory r s
  · exact .inl (congrArg Inventory.machines hsame)
  · exact (Inventory.machines_of_remove? hremove).imp_left fun h => h.2

/-- A machine that was deleted was stored. -/
theorem machines_of_delete_eq_ok {m : Machine} {s s' : Memory}
    (h : store.delete m.reference s = (.ok (), s')) :
    s.inventory.machines.contains m.identity = true ∧
      s'.inventory.machines = s.inventory.machines.erase m.identity := by
  obtain ⟨inv, hremove, rfl⟩ := Option.map_eq_some_iff.mp (drop?_of_delete_eq_ok h)
  obtain ⟨hkind, -⟩ | ⟨-, hstored, herased⟩ := Inventory.machines_of_remove? hremove
  · exact absurd rfl hkind
  · exact ⟨hstored, herased⟩

/-- What passes look at and never change: the machines that the watch cache is
pinned to, and the clusters. -/
def backdrop (s : Memory) : Option (List Machine) × Keyed Cluster.identity :=
  (s.pinned, s.inventory.clusters)

theorem delete_backdrop (r : Reference) (s : Memory) :
    (store.delete r s).2.backdrop = s.backdrop := by
  rcases hanswer : store.delete r s with ⟨e | _, s'⟩
  · exact congrArg backdrop (eq_of_delete_eq_error hanswer).symm
  · obtain ⟨inv, hremove, rfl⟩ := Option.map_eq_some_iff.mp (drop?_of_delete_eq_ok hanswer)
    exact congrArg (Prod.mk s.pinned) (Inventory.clusters_of_remove? hremove)

/-- A stored machine is deleted by its reference. -/
theorem delete_machine {m : Machine} (hm : m ∈ s.inventory.machines.toList)
    (h : s.refuses m.reference = false) :
    store.delete m.reference s = (.ok (), { s with
      inventory := { s.inventory with machines := s.inventory.machines.erase m.identity }
      deleted := s.deleted ++ [m.reference] }) := by
  have hfound : s.inventory.machines.contains m.identity = true :=
    Keyed.contains_iff.mpr ⟨m, hm, rfl⟩
  rw [delete_of_not_refuses h, drop?, Inventory.remove?_machine, if_pos hfound]
  rfl

end Memory

end Roster
