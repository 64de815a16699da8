/-
Roster.Proofs.Thoroughness — a clean-up tries everything and hides nothing.

Deleting a list of objects is a row of deletions, each answered by the store
as the ones before left it (`Store.Deletes`).  On every store a clean-up asks
for exactly this row (`Store.clear_recorded`), and what it fails with are the
answers of the row that count (`Store.exists_deletes`).

What a row of deletions leaves in memory is the inventory without what was
deleted.  A deletion takes away what is found under the key of its reference
(`Inventory.eq_without_of_remove?`), and what is taken away one after the
other might as well be taken away at once (`Inventory.without_without`), so
what is left does not depend on how often a reference is repeated.  Each
deletion finds what those before it have left
(`Memory.succeeded_iff_of_deletes`).
-/
import Roster.Proofs.Cleanup
import Roster.Proofs.Recorded
import Roster.Sample

namespace Roster

variable {σ : Type}

/-! ## Rows of deletions -/

/-- A deletion that was tried. -/
structure Deletion where
  reference : Reference
  answer : Except Error Unit

namespace Deletion

/-- Whether it went through. -/
def succeeded (d : Deletion) : Bool :=
  match d.answer with
  | .ok () => true
  | .error _ => false

/-- What a clean-up reports of it: its failure, unless the object was not there. -/
def failure? (d : Deletion) : Option Error := cleanupFailure? d.answer

/-- The references to what was deleted. -/
def gone (row : List Deletion) : List Reference := (row.filter succeeded).map reference

theorem failure?_eq_none_iff {d : Deletion} :
    d.failure? = none ↔ ∀ e, d.answer = .error e → e.isNotFound = true := by
  obtain ⟨r, e | _⟩ := d <;> simp [failure?, cleanupFailure?]

end Deletion

namespace Store

/-- The deletions of a row, one after the other, lead from one state to another. -/
inductive Deletes (store : Store σ) : List Deletion → σ → σ → Prop where
  | nil (s : σ) : store.Deletes [] s s
  | cons {r : Reference} {answer : Except Error Unit} {row : List Deletion} {s s' s'' : σ}
      (hanswer : store.delete r s = (answer, s')) (hrest : store.Deletes row s' s'') :
      store.Deletes (⟨r, answer⟩ :: row) s s''

/-- Each deletion of a row is answered after the ones before it. -/
theorem Deletes.exists_delete {store : Store σ} {front back : List Deletion} {d : Deletion}
    {s s'' : σ} (h : store.Deletes (front ++ d :: back) s s'') :
    ∃ t t', store.Deletes front s t ∧ store.delete d.reference t = (d.answer, t') := by
  induction front generalizing s with
  | nil =>
    cases h with
    | cons hanswer _ => exact ⟨s, _, .nil s, hanswer⟩
  | cons first front ih =>
    cases h with
    | cons hanswer hrest =>
      obtain ⟨t, t', hdeletes, hdelete⟩ := ih hrest
      exact ⟨t, t', .cons hanswer hdeletes, hdelete⟩

/-- A clean-up is a row of deletions, one for every reference, and collects what
there is to report of them. -/
theorem exists_deletes (store : Store σ) (refs : List Reference) (s : σ) :
    ∃ row : List Deletion, row.map Deletion.reference = refs ∧
      store.Deletes row s (store.clear refs s).2 ∧
      (store.clear refs s).1 = row.filterMap Deletion.failure? := by
  induction refs generalizing s with
  | nil => exact ⟨[], rfl, .nil s, rfl⟩
  | cons r rest ih =>
    obtain ⟨row, htried, hdeletes, hfailures⟩ := ih (store.delete r s).2
    refine ⟨⟨r, (store.delete r s).1⟩ :: row, congrArg (r :: ·) htried, .cons rfl hdeletes, ?_⟩
    rw [clear_cons]
    dsimp only
    rw [hfailures, List.filterMap_cons, Deletion.failure?]
    cases cleanupFailure? (store.delete r s).1 <;> rfl

/-- Whatever the answers are, a clean-up asks for the deletion of every reference
once, in order, and for nothing else. -/
theorem clear_recorded (store : Store σ) (refs : List Reference) (s : Recorded σ) :
    store.recorded.clear refs s =
      ((store.clear refs s.store).1, { s with
        store := (store.clear refs s.store).2
        requests := s.requests ++ refs.map Request.delete }) := by
  induction refs generalizing s with
  | nil => simp [clear]
  | cons r rest ih =>
    have hdelete : store.recorded.delete r s = ((store.delete r s.store).1, { s with
        store := (store.delete r s.store).2
        requests := s.requests ++ [.delete r] }) := by
      show Recorded.looking (.delete r) (store.delete r) s = _
      unfold Recorded.looking Recorded.asking
      rcases store.delete r s.store with ⟨e | _, s'⟩ <;> simp
    rw [clear_cons, clear_cons, hdelete]
    dsimp only
    rw [ih]
    simp

end Store

/-- A clean-up fails with all that there is to report, if there is anything. -/
theorem removeAll_apply (store : Store σ) (refs : List Reference) (j : Journal σ) :
    removeAll store refs j =
      (match (store.clear refs j.store).1 with
        | [] => .ok ()
        | first :: others => .error (.failed (.aggregate first others)),
      { j with store := (store.clear refs j.store).2 }) := by
  rw [removeAll, Pass.bind_apply, removeEach_apply]
  dsimp only
  cases (store.clear refs j.store).1 <;> rfl

/-! ## What is left in memory -/

/-- The key of something of a kind. -/
def ObjectKey.of (kind : String) (i : Identity) : ObjectKey := ⟨kind, i.ns, i.name⟩

/-- A reference leads to a kind and an identity. -/
theorem ObjectKey.of_mem_iff {kind : String} {i : Identity} {r : Reference} :
    of kind i ∈ [r.key] ↔ kind = r.kind ∧ i = r.identity := by
  cases i
  simp [of, Reference.key, Reference.identity]

namespace Inventory

variable {inv : Inventory} {r : Reference} {keys keys' : List ObjectKey}

/-- What is left without all that is found under some keys.  An object whose kind
has the name of those that are kept apart is not found under its key. -/
def without (inv : Inventory) (keys : List ObjectKey) : Inventory where
  machines := inv.machines.filter fun m => ObjectKey.of Kind.machine.name m.identity ∉ keys
  clusters := inv.clusters
  configs := inv.configs.filter fun c => ObjectKey.of Kind.bootstrapConfig.name c.identity ∉ keys
  objects := inv.objects.filter fun entry =>
    entry.1.kind = Kind.machine.name ∨ entry.1.kind = Kind.bootstrapConfig.name ∨ entry.1 ∉ keys

@[simp] theorem without_nil : inv.without [] = inv := by
  simp [without, Keyed.filter_eq_self]

/-- What is taken away one after the other might as well be taken away at once. -/
theorem without_without : (inv.without keys).without keys' = inv.without (keys ++ keys') := by
  simp only [without, Keyed.filter_filter, ← Bool.decide_and, ← or_and_left, List.mem_append,
    not_or]

/-- A reference takes one thing at most from those of a kind. -/
theorem filter_not_mem_key {α : Type} {identity : α → Identity} (things : Keyed identity)
    (kind : String) (r : Reference) :
    things.filter (fun a => ObjectKey.of kind (identity a) ∉ [r.key]) =
      if r.kind = kind then things.erase r.identity else things := by
  split
  next hkind =>
    refine Keyed.ext_mem fun a => ?_
    rw [Keyed.mem_filter, Keyed.mem_erase, decide_eq_true_iff, ObjectKey.of_mem_iff]
    simp [hkind]
  next hkind =>
    refine Keyed.filter_eq_self fun a _ => ?_
    rw [decide_eq_true_iff, ObjectKey.of_mem_iff]
    exact fun h => hkind h.1.symm

theorem objects_without (inv : Inventory) (r : Reference) : (inv.without [r.key]).objects =
    if r.kind = Kind.machine.name ∨ r.kind = Kind.bootstrapConfig.name then inv.objects
    else inv.objects.erase r.key := by
  split
  next hkind =>
    refine Keyed.filter_eq_self fun entry _ => ?_
    rw [decide_eq_true_iff, List.mem_singleton]
    by_cases hkey : entry.1 = r.key
    · rw [hkey]
      exact or_assoc.mp (.inl hkind)
    · exact .inr (.inr hkey)
  next hkind =>
    refine Keyed.ext_mem fun entry => ?_
    rw [without, Keyed.mem_filter, Keyed.mem_erase, decide_eq_true_iff, List.mem_singleton]
    refine and_congr_right fun _ => ⟨fun h hkey => ?_, fun h => .inr (.inr h)⟩
    rw [hkey] at h
    exact (or_assoc.mpr h).elim hkind fun hne => hne rfl

/-- Removing an object takes away what its reference leads to, and nothing else. -/
theorem eq_without_of_remove? {after : Inventory} (h : inv.remove? r = some after) :
    after = inv.without [r.key] := by
  have hmachines : (inv.without [r.key]).machines = _ :=
    filter_not_mem_key inv.machines Kind.machine.name r
  have hconfigs : (inv.without [r.key]).configs = _ :=
    filter_not_mem_key inv.configs Kind.bootstrapConfig.name r
  have hfields : inv.without [r.key] = ⟨(inv.without [r.key]).machines, inv.clusters,
      (inv.without [r.key]).configs, (inv.without [r.key]).objects⟩ := rfl
  rw [hfields, hmachines, hconfigs, objects_without]
  have hapart : Kind.machine.name ≠ Kind.bootstrapConfig.name := by decide
  -- Every kind has its own table, and the other two stay as they are.
  unfold remove? at h
  split at h
  next hmachine =>
    split at h <;> cases h
    simp [hmachine, hapart]
  next hmachine =>
    split at h
    next hconfig =>
      split at h <;> cases h
      simp [hconfig, hapart.symm]
    next hconfig =>
      split at h <;> cases h
      simp [hmachine, hconfig]

end Inventory

namespace Memory

variable {s s' : Memory} {row : List Deletion}

/-- The store after some deletions went through. -/
def without (s : Memory) (gone : List Reference) : Memory :=
  { s with
    inventory := s.inventory.without (gone.map Reference.key)
    deleted := s.deleted ++ gone }

theorem without_without (s : Memory) (gone gone' : List Reference) :
    (s.without gone).without gone' = s.without (gone ++ gone') := by
  simp only [without, Inventory.without_without, List.map_append, List.append_assoc]

/-- A deletion that succeeds takes away what its reference leads to, and one that
fails nothing. -/
theorem eq_without_of_delete {r : Reference} {answer : Except Error Unit}
    (h : store.delete r s = (answer, s')) : s' = s.without (Deletion.gone [⟨r, answer⟩]) := by
  cases answer with
  | error e =>
    rw [← eq_of_delete_eq_error h]
    simp [without, Deletion.gone, Deletion.succeeded]
  | ok _ =>
    obtain ⟨inv, hremove, rfl⟩ := Option.map_eq_some_iff.mp (drop?_of_delete_eq_ok h)
    rw [Inventory.eq_without_of_remove? hremove]
    rfl

/-- A row of deletions leaves the store without what was deleted. -/
theorem eq_without_of_deletes (h : store.Deletes row s s') :
    s' = s.without (Deletion.gone row) := by
  induction h with
  | nil s => simp [without, Deletion.gone]
  | cons hanswer _ ih =>
    rw [ih, eq_without_of_delete hanswer, without_without, Deletion.gone, Deletion.gone,
      ← List.map_append, ← List.filter_append]
    rfl

/-- A deletion succeeds when it is not told to fail and its reference leads to
something. -/
theorem succeeded_iff_of_delete {d : Deletion} (h : store.delete d.reference s = (d.answer, s')) :
    d.succeeded = true ↔
      s.refuses d.reference = false ∧ (s.inventory.remove? d.reference).isSome = true := by
  cases hrefuses : s.refuses d.reference with
  | true =>
    obtain ⟨e, hdelete, -⟩ := delete_of_refuses hrefuses
    have hanswer : d.answer = .error e := congrArg Prod.fst (h.symm.trans hdelete)
    simp [Deletion.succeeded, hanswer]
  | false =>
    rw [delete_of_not_refuses hrefuses, drop?] at h
    cases hremove : s.inventory.remove? d.reference with
    | none =>
      rw [hremove] at h
      have hanswer : d.answer = .error (.notFound d.reference.kind d.reference.name) :=
        (congrArg Prod.fst h).symm
      simp [Deletion.succeeded, hanswer]
    | some inv =>
      rw [hremove] at h
      have hanswer : d.answer = .ok () := (congrArg Prod.fst h).symm
      simp [Deletion.succeeded, hanswer]

/-- A deletion of a row finds only what those before it have left. -/
theorem succeeded_iff_of_deletes {front back : List Deletion} {d : Deletion}
    (h : store.Deletes (front ++ d :: back) s s') :
    d.succeeded = true ↔ s.refuses d.reference = false ∧
      ((s.without (Deletion.gone front)).inventory.remove? d.reference).isSome = true := by
  obtain ⟨t, t', hdeletes, hdelete⟩ := h.exists_delete
  rw [succeeded_iff_of_delete hdelete, eq_without_of_deletes hdeletes]
  rfl

/-- A clean-up of `refs` went from one store to another by a row of deletions, and
ended as they did. -/
structure CleansUp (refs : List Reference) (before after : Recorded Memory)
    (ended : Except Halt Unit) (row : List Deletion) : Prop where
  /-- Every reference is tried once, in order. -/
  tried : row.map Deletion.reference = refs
  /-- The store was asked for these deletions, and for nothing else. -/
  asked : after.requests = before.requests ++ refs.map Request.delete
  /-- It answered each of them as those before had left it. -/
  answered : store.Deletes row before.store after.store
  /-- A deletion succeeds unless it is told to fail, or its reference leads to nothing
  that is left. -/
  succeeded_iff : ∀ front d back, row = front ++ d :: back → (d.succeeded = true ↔
    before.store.refuses d.reference = false ∧ ((before.store.without
      (Deletion.gone front)).inventory.remove? d.reference).isSome = true)
  /-- What is stored is what was stored, less what was deleted. -/
  left : after.store = before.store.without (Deletion.gone row)
  /-- The clean-up succeeds when every object was deleted or not there. -/
  succeeds_iff : ended = .ok () ↔ ∀ d ∈ row, ∀ e, d.answer = .error e → e.isNotFound = true
  /-- Otherwise it fails with every other failure, in order. -/
  fails : ∀ halt, ended = .error halt → ∃ first others,
    halt = .failed (.aggregate first others) ∧ first :: others = row.filterMap Deletion.failure?

end Memory

/-- A clean-up in memory tries every reference once, in order, whatever becomes of
the others.  Afterwards exactly that is gone of which the deletion succeeded, and
the clean-up fails with exactly the deletions that failed, but for those of objects
that were not there.  It publishes nothing, and does the same without a record. -/
theorem removeAll_is_thorough (refs : List Reference) (j : Journal (Recorded Memory)) :
    let ended := removeAll Memory.store.recorded refs j
    (∃ row, Memory.CleansUp refs j.store ended.2.store ended.1 row) ∧
      ended.2.events = j.events ∧
      removeAll Memory.store refs (j.map Recorded.store) =
        (ended.1, ended.2.map Recorded.store) := by
  intro ended
  have hended : ended = _ := removeAll_apply Memory.store.recorded refs j
  rw [Memory.store.clear_recorded] at hended
  obtain ⟨row, htried, hdeletes, hfailures⟩ := Memory.store.exists_deletes refs j.store.store
  rw [hfailures] at hended
  refine ⟨⟨row, ?_⟩, by rw [hended], removeAll_mirrors Memory.store.recorded_mirrors refs j⟩
  rw [hended]
  -- There is nothing to report when no deletion failed in a way that counts.
  have hquiet : row.filterMap Deletion.failure? = [] ↔
      ∀ d ∈ row, ∀ e, d.answer = .error e → e.isNotFound = true := by
    simp only [List.filterMap_eq_nil_iff, Deletion.failure?_eq_none_iff]
  exact {
    tried := htried
    asked := rfl
    answered := hdeletes
    succeeded_iff := fun front d back hrow => Memory.succeeded_iff_of_deletes (hrow ▸ hdeletes)
    left := Memory.eq_without_of_deletes hdeletes
    succeeds_iff := by
      rw [← hquiet]
      cases row.filterMap Deletion.failure? <;> simp
    fails := by
      cases row.filterMap Deletion.failure? <;> simp }

/-- An object that cannot be deleted does not keep the others, and it alone is
reported: not one that is missing, and not one that is named twice. -/
example :
    let object (name : String) : Reference :=
      ⟨Sample.infrastructureVersion, Sample.templateKind, some Sample.namespaceName, name, none⟩
    let stubborn : Memory := { Sample.memory [] with faults := [.delete "stuck"] }
    let ended := removeAll Memory.store
      (["stuck", "missing", Sample.templateName, Sample.templateName].map object) ⟨stubborn, []⟩
    (Pass.failure? ended.1).map Error.message =
        some ("failed to cleanup generated resources after error: " ++
          "internal error [store]: injected Delete(\"stuck\") failure") ∧
      ended.2.store.deleted = [object Sample.templateName] ∧
      ended.2.store.inventory.objects.isEmpty = true := by
  decide +kernel

end Roster
