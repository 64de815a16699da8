/-
Roster.Proofs.Json.Records — what is read of an object as a record.

A record is read off the keys of its entries and the values of its fields
(`record?_object`).  So it does not matter what entries with other names
hold (`record?_add`), a field that is there twice is refused
(`record?_repeated`), and of a record that is read every field has the value
of the one entry with its name (`record?_entry`).
-/
import Mathlib.Data.List.Count
import Mathlib.Data.Option.Basic
import Mathlib.Logic.Function.Basic
import Roster.Json.Decode

namespace Roster

namespace Document

variable {fields : List String} {es front back : List (Option String × Document)}
  {f name : String}

/-- Keys that all denote, with every field once at most among them. -/
def WellKeyed (fields : List String) (keys : List (Option String)) : Prop :=
  none ∉ keys ∧ ∀ f ∈ fields, keys.count (some f) ≤ 1

instance (fields : List String) (keys : List (Option String)) :
    Decidable (WellKeyed fields keys) :=
  inferInstanceAs (Decidable (_ ∧ _))

theorem keys?_eq_some_iff {keys : List String} :
    keys? es = some keys ↔ es.map Prod.fst = keys.map some := by
  induction es generalizing keys with
  | nil => cases keys <;> simp [keys?]
  | cons e es ih =>
    obtain ⟨_ | key, d⟩ := e
    · cases keys <;> simp [keys?]
    · cases keys with
      | nil => simp [keys?]
      | cons k ks => simp [keys?, ih, and_comm]

theorem keys?_eq_none_iff : keys? es = none ↔ none ∈ es.map Prod.fst := by
  induction es with
  | nil => simp [keys?]
  | cons e es ih =>
    obtain ⟨_ | key, d⟩ := e
    · simp [keys?]
    · simp [keys?, ih]

/-- What is read of an object: its keys are looked at as a whole, the rest
field by field. -/
theorem record?_object (fields : List String) (es : List (Option String × Document)) :
    record? fields (.object es) =
      if WellKeyed fields (es.map Prod.fst) then some (valueOf? es) else none := by
  rw [record?]
  cases hkeys : keys? es with
  | none => exact (if_neg fun h => h.1 (keys?_eq_none_iff.mp hkeys)).symm
  | some keys =>
    rw [keys?_eq_some_iff] at hkeys
    have hcount (f : String) : (es.map Prod.fst).count (some f) = keys.count f := by
      rw [hkeys, List.count_map_of_injective _ _ (Option.some_injective _)]
    simp [WellKeyed, hkeys, ← hcount]

/-- A record with a field twice is not read. -/
theorem record?_repeated (hf : f ∈ fields) (h : 1 < (es.map Prod.fst).count (some f)) :
    record? fields (.object es) = none := by
  rw [record?_object, if_neg]
  intro hkeys
  exact absurd (hkeys.2 f hf) (Nat.not_le_of_lt h)

theorem valueOf?_cons (key : Option String) (x : Document)
    (es : List (Option String × Document)) (f : String) :
    valueOf? ((key, x) :: es) f = if key = some f then some x else valueOf? es f := by
  rw [valueOf?, List.find?_cons]
  split
  next h => rw [if_pos (by simpa using h)]; rfl
  next h => rw [if_neg (by simpa using h)]; rfl

theorem valueOf?_append_of_ne {key : Option String} (h : key ≠ some f) (x : Document) :
    valueOf? (front ++ (key, x) :: back) f = valueOf? (front ++ back) f := by
  induction front with
  | nil => rw [List.nil_append, valueOf?_cons, if_neg h, List.nil_append]
  | cons e front ih => rw [List.cons_append, List.cons_append, valueOf?_cons, valueOf?_cons, ih]

theorem valueOf?_append_self (h : some f ∉ front.map Prod.fst) (x : Document) :
    valueOf? (front ++ (some f, x) :: back) f = some x := by
  induction front with
  | nil => rw [List.nil_append, valueOf?_cons, if_pos rfl]
  | cons e front ih =>
    obtain ⟨hne, hrest⟩ := not_or.mp (List.mem_cons.not.mp h)
    rw [List.cons_append, valueOf?_cons, if_neg (Ne.symm hne), ih hrest]

/-- The fields of a record do not change when an entry with another name is
added. -/
theorem record?_add (hname : name ∉ fields) (x : Document) :
    Option.Rel (fun g g' => ∀ f ∈ fields, g f = g' f)
      (record? fields (.object (front ++ back)))
      (record? fields (.object (front ++ (some name, x) :: back))) := by
  have hother {f : String} (hf : f ∈ fields) : some name ≠ some f := by
    rintro ⟨⟩
    exact hname hf
  have hkeys : WellKeyed fields ((front ++ (some name, x) :: back).map Prod.fst) ↔
      WellKeyed fields ((front ++ back).map Prod.fst) := by
    refine and_congr (by simp) (forall₂_congr fun f hf => ?_)
    simp [List.count_cons_of_ne (hother hf)]
  rw [record?_object, record?_object, if_congr hkeys rfl rfl]
  split
  · exact .some fun f hf => (valueOf?_append_of_ne (hother hf) x).symm
  · exact .none

/-- An entry of a record is the value of its field, if the record is read. -/
theorem record?_entry (hf : f ∈ fields) (front back : List (Option String × Document)) :
    (∀ x, record? fields (.object (front ++ (some f, x) :: back)) = none) ∨
      ∃ g, ∀ x, record? fields (.object (front ++ (some f, x) :: back)) =
        some (Function.update g f (some x)) := by
  by_cases hkeys : WellKeyed fields (front.map Prod.fst ++ some f :: back.map Prod.fst)
  · have hfront : some f ∉ front.map Prod.fst := by
      intro hmem
      have hone := hkeys.2 f hf
      have hpos := List.count_pos_iff.mpr hmem
      rw [List.count_append, List.count_cons_self] at hone
      omega
    refine .inr ⟨valueOf? (front ++ back), fun x => ?_⟩
    rw [record?_object, if_pos (by simpa using hkeys)]
    congr 1
    funext k
    rw [Function.update_apply]
    split
    next heq =>
      subst heq
      exact valueOf?_append_self hfront x
    next hne => exact valueOf?_append_of_ne (by simpa using Ne.symm hne) x
  · exact .inl fun x => by rw [record?_object, if_neg (by simpa using hkeys)]

end Document

end Roster
