/-
Roster.Keyed — finite sets of values that carry their own key, kept as
lists in strictly ascending key order.

A `Keyed key` holds at most one value per key.  `insert` replaces the
value stored under the same key, so building from a list keeps the last
value of every key; `toList` is the canonical enumeration, and two sets
with the same enumeration are equal.  `Table κ α` is the case of pairs
keyed by their first component, and `Dict α` a table keyed by text.

The order of the keys is `compare`; its laws (`Std.TransOrd`) are what
keeps `insert` inside the type.
-/
namespace Roster

universe u v

/-! ## Strictly ascending lists -/

/-- Put `a` where its key belongs, replacing a value with the same key. -/
def insertSorted {α : Type u} {κ : Type v} [Ord κ] (key : α → κ) (a : α) : List α → List α
  | [] => [a]
  | b :: rest =>
    match compare (key a) (key b) with
    | .lt => a :: b :: rest
    | .eq => a :: rest
    | .gt => b :: insertSorted key a rest

/-- Strictly ascending by key. -/
abbrev Ascending {α : Type u} {κ : Type v} [Ord κ] (key : α → κ) (l : List α) : Prop :=
  l.Pairwise fun a b => compare (key a) (key b) = .lt

/-- Everything in the result of an insertion was there before or is the
inserted value. -/
theorem mem_of_mem_insertSorted {α : Type u} {κ : Type v} [Ord κ] {key : α → κ} {a x : α}
    {l : List α} (h : x ∈ insertSorted key a l) : x = a ∨ x ∈ l := by
  induction l with
  | nil => simpa [insertSorted] using h
  | cons b rest ih =>
    rw [insertSorted] at h
    split at h
    · simpa using h
    · rcases List.mem_cons.mp h with h | h
      · exact .inl h
      · exact .inr (List.mem_cons_of_mem _ h)
    · rcases List.mem_cons.mp h with h | h
      · exact .inr (h ▸ List.mem_cons_self)
      · exact (ih h).imp_right (List.mem_cons_of_mem _)

/-- Insertion keeps a list strictly ascending. -/
theorem ascending_insertSorted {α : Type u} {κ : Type v} [Ord κ] [Std.TransOrd κ] {key : α → κ}
    (a : α) {l : List α} (h : Ascending key l) : Ascending key (insertSorted key a l) := by
  induction l with
  | nil => simp [insertSorted, Ascending]
  | cons b rest ih =>
    have hb := List.pairwise_cons.mp h
    rw [insertSorted]
    split
    next hlt =>
      refine List.pairwise_cons.mpr ⟨?_, h⟩
      intro x hx
      rcases List.mem_cons.mp hx with rfl | hx
      · exact hlt
      · exact Std.TransCmp.lt_trans hlt (hb.1 x hx)
    next heq =>
      refine List.pairwise_cons.mpr ⟨?_, hb.2⟩
      intro x hx
      exact Std.TransCmp.lt_of_eq_of_lt heq (hb.1 x hx)
    next hgt =>
      refine List.pairwise_cons.mpr ⟨?_, ih hb.2⟩
      intro x hx
      rcases mem_of_mem_insertSorted hx with rfl | hx
      · exact Std.OrientedCmp.gt_iff_lt.mp hgt
      · exact hb.1 x hx

/-! ## Keyed sets -/

/-- A finite set of values with at most one value per key, enumerated in
ascending key order. -/
structure Keyed {α : Type u} {κ : Type v} [Ord κ] (key : α → κ) where
  /-- The values, in ascending key order. -/
  toList : List α
  /-- The keys ascend strictly. -/
  ordered : Ascending key toList

namespace Keyed

variable {α : Type u} {κ : Type v} [Ord κ] {key : α → κ}

/-- A keyed set is determined by its enumeration. -/
@[ext]
theorem ext {s t : Keyed key} (h : s.toList = t.toList) : s = t := by
  cases s; cases t; cases h; rfl

instance [DecidableEq α] : DecidableEq (Keyed key) := fun s t =>
  if h : s.toList = t.toList then isTrue (ext h) else isFalse fun e => h (e ▸ rfl)

/-- The set without values. -/
def empty : Keyed key := ⟨[], .nil⟩

instance : EmptyCollection (Keyed key) := ⟨empty⟩
instance : Inhabited (Keyed key) := ⟨empty⟩

/-- Store `a`, replacing the value with the same key. -/
def insert [Std.TransOrd κ] (s : Keyed key) (a : α) : Keyed key :=
  ⟨insertSorted key a s.toList, ascending_insertSorted a s.ordered⟩

/-- Keep the values that satisfy `p`. -/
def filter (s : Keyed key) (p : α → Bool) : Keyed key :=
  ⟨s.toList.filter p, s.ordered.filter p⟩

/-- The value stored under `k`. -/
def get? (s : Keyed key) (k : κ) : Option α :=
  s.toList.find? fun a => compare (key a) k == .eq

/-- Whether a value is stored under `k`. -/
def contains (s : Keyed key) (k : κ) : Bool :=
  s.toList.any fun a => compare (key a) k == .eq

/-- Drop the value stored under `k`. -/
def erase (s : Keyed key) (k : κ) : Keyed key :=
  s.filter fun a => compare (key a) k != .eq

/-- The number of values. -/
def size (s : Keyed key) : Nat := s.toList.length

/-- Whether there is no value. -/
def isEmpty (s : Keyed key) : Bool := s.toList.isEmpty

/-- Store every value of a list in turn: the last value of a key wins. -/
def ofList [Std.TransOrd κ] (l : List α) : Keyed key := l.foldl insert empty

/-- Store every value of a list in turn, over those of `s`. -/
def insertAll [Std.TransOrd κ] (s : Keyed key) (l : List α) : Keyed key := l.foldl insert s

end Keyed

/-! ## Tables -/

/-- A finite map, kept in ascending key order. -/
abbrev Table (κ : Type u) [Ord κ] (α : Type v) := Keyed (Prod.fst : κ × α → κ)

/-- A finite map from text. -/
abbrev Dict (α : Type v) := Table String α

namespace Table

variable {κ : Type u} [Ord κ] {α : Type v}

/-- The entry value under `k`. -/
def lookup (t : Table κ α) (k : κ) : Option α := (t.get? k).map Prod.snd

/-- Store `a` under `k`, replacing what was there. -/
def put [Std.TransOrd κ] (t : Table κ α) (k : κ) (a : α) : Table κ α := t.insert (k, a)

/-- The stored values, in ascending key order. -/
def values (t : Table κ α) : List α := t.toList.map Prod.snd

end Table

end Roster
