/-
Roster.Proofs.Cleanup — undoing a failed attempt.

`Store.clear` is what the clean-up does to a store: every deletion is
tried in turn, whatever became of the ones before, and the failures that
count are collected.  The clean-up itself always comes to an end
(`removeEach_apply`), and the attempt it belongs to always fails with its
cause in front (`ensures_rollBack`).
-/
import Roster.Proofs.Memory
import Roster.Provision.Attempt

namespace Roster

variable {σ : Type}

/-- What a deletion leaves to report. -/
def cleanupFailure? : Except Error Unit → Option Error
  | .ok () => none
  | .error e =>
    if e.isNotFound then none
    else some (e.wrap "failed to cleanup generated resources after error")

/-- Delete objects one after the other: the failures, and the store after it. -/
def Store.clear (store : Store σ) : List Reference → σ → List Error × σ
  | [], s => ([], s)
  | r :: rest, s =>
    let (ended, s) := store.delete r s
    let (failures, s) := store.clear rest s
    ((cleanupFailure? ended).toList ++ failures, s)

theorem Store.clear_cons (store : Store σ) (r : Reference) (rest : List Reference) (s : σ) :
    store.clear (r :: rest) s =
      ((cleanupFailure? (store.delete r s).1).toList ++ (store.clear rest (store.delete r s).2).1,
        (store.clear rest (store.delete r s).2).2) := rfl

theorem removeEach_apply (store : Store σ) (refs : List Reference) (j : Journal σ) :
    removeEach store refs j =
      (.ok (store.clear refs j.store).1, { j with store := (store.clear refs j.store).2 }) := by
  induction refs generalizing j with
  | nil => rfl
  | cons r rest ih =>
    have hdelete : (Pass.call (store.delete r)).attempt j =
        (.ok (store.delete r j.store).1, { j with store := (store.delete r j.store).2 }) := by
      unfold Pass.attempt Pass.call
      rcases store.delete r j.store with ⟨e | _, s⟩ <;> rfl
    rw [removeEach, Pass.bind_apply, hdelete]
    dsimp only
    rw [Pass.bind_apply, ih]
    dsimp only [Store.clear]
    rcases store.delete r j.store with ⟨e | _, s⟩
    · dsimp only [cleanupFailure?]
      split <;> rfl
    · rfl

/-- The errors of a clean-up, as the failed attempt lists them. -/
def cleanupErrors (failures : List Error) : List Error :=
  (Error.ofList? failures).toList.map (·.wrap "failed to cleanup generated resources")

theorem cleanupErrors_eq_nil_iff {failures : List Error} :
    cleanupErrors failures = [] ↔ failures = [] := by
  cases failures <;> simp [cleanupErrors, Error.ofList?]

/-- A rolled back attempt fails: with its cause, and then with what went wrong
in the clean-up. -/
theorem ensures_rollBack {store : Store σ} {refs : List Reference} {cause : Error} {j : Journal σ}
    {ok : Machine → Journal σ → Prop} {halt : Halt → Journal σ → Prop} :
    (Scope.rollBack store refs cause).Ensures j ok halt ↔
      halt (.failed (.aggregate cause (cleanupErrors (store.clear refs j.store).1)))
        { j with store := (store.clear refs j.store).2 } := by
  rw [Scope.rollBack, removeAll, Pass.ensures_bind, Pass.ensures_attempt, Pass.ensures_bind]
  unfold Pass.Ensures
  rw [removeEach_apply, cleanupErrors]
  dsimp only
  cases Error.ofList? (store.clear refs j.store).1 <;> rfl

/-! ## In memory -/

/-- Items that do not get in each other's way. -/
structure Item.Apart (a b : Item) : Prop where
  comm (inv : Inventory) : b.put (a.put inv) = a.put (b.put inv)
  left (inv : Inventory) : a.isNew (b.put inv) = a.isNew inv
  right (inv : Inventory) : b.isNew (a.put inv) = b.isNew inv

/-- An object and settings are kept in different places. -/
theorem Item.object_apart_config (r : Reference) (o : Unstructured) (c : BootstrapConfig) :
    (Item.object r o).Apart (.config c) :=
  ⟨fun _ => rfl, fun _ => rfl, fun _ => rfl⟩

/-- Putting items all at once. -/
def Inventory.putAll (inv : Inventory) (items : List Item) : Inventory := items.foldl Item.put inv

@[simp] theorem Inventory.putAll_nil (inv : Inventory) : inv.putAll [] = inv := rfl

@[simp] theorem Inventory.putAll_cons (inv : Inventory) (a : Item) (items : List Item) :
    inv.putAll (a :: items) = (a.put inv).putAll items := rfl

theorem Item.put_putAll {a : Item} {items : List Item} (h : ∀ b ∈ items, a.Apart b)
    (inv : Inventory) : (a.put inv).putAll items = a.put (inv.putAll items) := by
  induction items generalizing inv with
  | nil => rfl
  | cons b rest ih =>
    rw [Inventory.putAll_cons, (h b List.mem_cons_self).comm,
      ih (fun c hc => h c (List.mem_cons_of_mem _ hc)), Inventory.putAll_cons]

theorem Item.isNew_putAll {a : Item} {items : List Item} (h : ∀ b ∈ items, a.Apart b)
    (inv : Inventory) : a.isNew (inv.putAll items) = a.isNew inv := by
  induction items generalizing inv with
  | nil => rfl
  | cons b rest ih =>
    rw [Inventory.putAll_cons, ih (fun c hc => h c (List.mem_cons_of_mem _ hc)),
      (h b List.mem_cons_self).left]

namespace Memory

variable {s : Memory} {inv : Inventory}

theorem clear_backdrop (refs : List Reference) (s : Memory) :
    (store.clear refs s).2.backdrop = s.backdrop := by
  induction refs generalizing s with
  | nil => rfl
  | cons r rest ih =>
    rw [Store.clear]
    exact (ih _).trans (delete_backdrop r s)

/-- A clean-up of other things leaves the machines alone. -/
theorem clear_machines_eq {refs : List Reference} (h : ∀ r ∈ refs, r.kind ≠ Kind.machine.name) :
    (store.clear refs s).2.inventory.machines = s.inventory.machines := by
  induction refs generalizing s with
  | nil => rfl
  | cons r rest ih =>
    have hdeleted : (store.delete r s).2.inventory.machines = s.inventory.machines :=
      (delete_machines r s).resolve_right fun ⟨hkind, _⟩ => h r List.mem_cons_self hkind
    rw [Store.clear]
    exact (ih fun x hx => h x (List.mem_cons_of_mem _ hx)).trans hdeleted

/-- A clean-up that starts with any object takes away one machine at most: a
stored one that the reference to the object leads to. -/
theorem clear_machines (r : Reference) {rest : List Reference}
    (h : ∀ r ∈ rest, r.kind ≠ Kind.machine.name) :
    (store.clear (r :: rest) s).2.inventory.machines = s.inventory.machines ∨
      r.kind = Kind.machine.name ∧ s.inventory.machines.contains r.identity = true ∧
        (store.clear (r :: rest) s).2.inventory.machines =
          s.inventory.machines.erase r.identity := by
  have hcleared : (store.clear (r :: rest) s).2.inventory.machines =
      (store.delete r s).2.inventory.machines := clear_machines_eq h
  rw [hcleared]
  exact delete_machines r s

/-- After the new items of an attempt are cleared away, exactly those are left
whose deletion is told to fail, and for each of them a failure is reported. -/
theorem clear_made {made : List Item} (hinv : s.inventory = inv.putAll made)
    (hnew : ∀ item ∈ made, item.isNew inv = true) (haddress : ∀ item ∈ made, item.IsAddressed)
    (hapart : made.Pairwise Item.Apart) (hcode : s.apiCode ≠ some 404) :
    let kept := made.filter fun item => s.refuses item.reference
    (store.clear (made.map Item.reference) s).2.inventory = inv.putAll kept ∧
      (store.clear (made.map Item.reference) s).2.created = s.created ∧
      (store.clear (made.map Item.reference) s).1.length = kept.length := by
  induction made generalizing s inv with
  | nil => exact ⟨hinv, rfl, rfl⟩
  | cons a rest ih =>
    obtain ⟨ha, hrest⟩ := List.pairwise_cons.mp hapart
    have hnew_rest : ∀ item ∈ rest, item.isNew inv = true :=
      fun item h => hnew item (List.mem_cons_of_mem _ h)
    have haddress_rest : ∀ item ∈ rest, item.IsAddressed :=
      fun item h => haddress item (List.mem_cons_of_mem _ h)
    dsimp only
    rw [List.map_cons, List.filter_cons]
    cases hrefuses : s.refuses a.reference with
    | true =>
      obtain ⟨e, hdelete, hnotFound⟩ := delete_of_refuses hrefuses
      have hreport : e.isNotFound = false := by
        rw [← Bool.not_eq_true, hnotFound]
        exact hcode
      obtain ⟨hinventory, hcreated, hlength⟩ := ih hinv
        (fun item h => ((ha item h).right inv).trans (hnew_rest item h)) haddress_rest hrest hcode
      simp only [Store.clear, hdelete, cleanupFailure?, hreport, if_true, Bool.false_eq_true,
        if_false, Option.toList_some, List.singleton_append, List.length_cons,
        Inventory.putAll_cons]
      exact ⟨hinventory, hcreated, congrArg (· + 1) hlength⟩
    | false =>
      -- The other items stand aside, so `a` is deleted from the front.
      have hfront : s.inventory = a.put (inv.putAll rest) := by
        rw [hinv, Inventory.putAll_cons, Item.put_putAll ha]
      have ha_new : a.isNew (inv.putAll rest) = true :=
        (Item.isNew_putAll ha inv).trans (hnew a List.mem_cons_self)
      have hdelete : store.delete a.reference s = (.ok (), { s with
          inventory := inv.putAll rest
          deleted := s.deleted ++ [a.reference] }) := by
        rw [delete_of_not_refuses hrefuses, drop?, hfront,
          Inventory.remove?_put ha_new (haddress a List.mem_cons_self)]
        rfl
      simp only [Store.clear, hdelete, cleanupFailure?, Bool.false_eq_true, if_false,
        Option.toList_none, List.nil_append]
      exact ih rfl hnew_rest haddress_rest hrest hcode

end Memory

end Roster
