/-
Roster.Proofs.Keyed — what the operations on keyed sets do to their
members.

A keyed set is told by its members (`ext_mem`): the order of its
enumeration is forced by the keys.  So every operation is described by
one membership lemma (`mem_insert`, `mem_erase`, `mem_filter`), equations
between sets follow from these, and a change of size is read off a
permutation (`perm_insert`, `perm_erase`).

The keys have to be lawful for equality: `compare` answers `.eq` on equal
keys only.
-/
import Roster.Store.Inventory
import Mathlib.Data.List.Induction

namespace Roster

/-! ## The keys in use -/

instance : Std.LawfulEqOrd Identity where
  eq_of_compare {a b} h := by
    have h : ((compare a.ns b.ns).then (compare a.name b.name)) = .eq := h
    rw [Ordering.then_eq_eq] at h
    cases a; cases b
    simp only [Identity.mk.injEq]
    exact ⟨Std.LawfulEqOrd.eq_of_compare h.1, Std.LawfulEqOrd.eq_of_compare h.2⟩

instance : Std.LawfulEqOrd ObjectKey where
  eq_of_compare {a b} h := by
    have h : ((compare a.kind b.kind).then
        ((compare a.ns b.ns).then (compare a.name b.name))) = .eq := h
    rw [Ordering.then_eq_eq, Ordering.then_eq_eq] at h
    cases a; cases b
    simp only [ObjectKey.mk.injEq]
    exact ⟨Std.LawfulEqOrd.eq_of_compare h.1, Std.LawfulEqOrd.eq_of_compare h.2.1,
      Std.LawfulEqOrd.eq_of_compare h.2.2⟩

namespace Keyed

universe u v

variable {α : Type u} {κ : Type v} [Ord κ] {key : α → κ}

/-! ## Insertion into lists -/

theorem mem_insertSorted_self (a : α) (l : List α) : a ∈ insertSorted key a l := by
  induction l with
  | nil => simp [insertSorted]
  | cons b rest ih =>
    rw [insertSorted]
    split <;> simp [ih]

/-- Insertion keeps every value under another key. -/
theorem mem_insertSorted_of_mem {a x : α} {l : List α} (hx : x ∈ l)
    (hne : compare (key a) (key x) ≠ .eq) : x ∈ insertSorted key a l := by
  induction l with
  | nil => cases hx
  | cons b rest ih =>
    rw [insertSorted]
    split
    · exact List.mem_cons_of_mem _ hx
    next heq =>
      rcases List.mem_cons.mp hx with rfl | hx
      · exact absurd heq hne
      · exact List.mem_cons_of_mem _ hx
    · rcases List.mem_cons.mp hx with rfl | hx
      · exact List.mem_cons_self
      · exact List.mem_cons_of_mem _ (ih hx)

variable [Std.TransOrd κ]

/-- A value that belongs behind all others goes to the end. -/
theorem insertSorted_of_last {a : α} {l : List α}
    (h : ∀ b ∈ l, compare (key b) (key a) = .lt) : insertSorted key a l = l ++ [a] := by
  induction l with
  | nil => rfl
  | cons b rest ih =>
    have hb : compare (key a) (key b) = .gt :=
      Std.OrientedCmp.gt_iff_lt.mpr (h b List.mem_cons_self)
    simp only [insertSorted, hb, List.cons_append]
    rw [ih fun c hc => h c (List.mem_cons_of_mem _ hc)]

/-! ## Members -/

/-- Members ascend, so no key occurs twice. -/
theorem nodup_keys (s : Keyed key) : (s.toList.map key).Nodup := by
  refine List.pairwise_map.mpr (s.ordered.imp fun {a b} h heq => ?_)
  rw [heq, Std.ReflOrd.compare_self] at h
  cases h

/-- No member occurs twice. -/
theorem nodup (s : Keyed key) : s.toList.Nodup :=
  List.Pairwise.of_map key (fun _ _ hne heq => hne (congrArg key heq)) s.nodup_keys

/-- There is one member for every key. -/
theorem eq_of_key_eq (s : Keyed key) {a b : α} (ha : a ∈ s.toList) (hb : b ∈ s.toList)
    (h : key a = key b) : a = b := by
  have hall := List.Pairwise.forall_of_forall_of_flip (R := fun x y => key x = key y → x = y)
    (l := s.toList) (fun _ _ _ => rfl) (s.ordered.imp ?_) (s.ordered.imp ?_)
  · exact hall ha hb h
  all_goals
    intro x y hlt hkey
    rw [hkey, Std.ReflOrd.compare_self] at hlt
    cases hlt

omit [Std.TransOrd κ] in
@[simp] theorem toList_empty : (Keyed.empty : Keyed key).toList = [] := rfl

omit [Std.TransOrd κ] in
theorem eq_empty_of_isEmpty {s : Keyed key} (h : s.isEmpty = true) : s = .empty :=
  Keyed.ext (List.isEmpty_iff.mp h)

omit [Std.TransOrd κ] in
theorem isEmpty_eq_false_iff {s : Keyed key} : s.isEmpty = false ↔ ∃ a, a ∈ s.toList := by
  rw [isEmpty, List.isEmpty_eq_false_iff_exists_mem]

omit [Std.TransOrd κ] in
theorem isEmpty_eq_of_size_eq {s t : Keyed key} (h : s.size = t.size) :
    s.isEmpty = t.isEmpty := by
  rw [Bool.eq_iff_iff, isEmpty, isEmpty, List.isEmpty_iff_length_eq_zero,
    List.isEmpty_iff_length_eq_zero]
  exact Iff.of_eq (congrArg (· = 0) h)

omit [Std.TransOrd κ] in
theorem size_filter (s : Keyed key) (p : α → Bool) : (s.filter p).size = s.toList.countP p :=
  List.countP_eq_length_filter.symm

omit [Std.TransOrd κ] in
@[simp] theorem mem_filter {s : Keyed key} {p : α → Bool} {a : α} :
    a ∈ (s.filter p).toList ↔ a ∈ s.toList ∧ p a = true := by
  simp [filter]

omit [Std.TransOrd κ] in
theorem filter_congr {s : Keyed key} {p q : α → Bool} (h : ∀ a ∈ s.toList, p a = q a) :
    s.filter p = s.filter q :=
  Keyed.ext (List.filter_congr h)

omit [Std.TransOrd κ] in
theorem filter_eq_self {s : Keyed key} {p : α → Bool} (h : ∀ a ∈ s.toList, p a = true) :
    s.filter p = s :=
  Keyed.ext (List.filter_eq_self.mpr h)

omit [Std.TransOrd κ] in
/-- Two conditions may be asked at once. -/
theorem filter_filter (s : Keyed key) (p q : α → Bool) :
    (s.filter p).filter q = s.filter fun a => p a && q a :=
  Keyed.ext (by simp only [filter, List.filter_filter, Bool.and_comm])

/-- A set is told by its members. -/
theorem ext_mem {s t : Keyed key} (h : ∀ a, a ∈ s.toList ↔ a ∈ t.toList) : s = t := by
  have hperm : s.toList.Perm t.toList :=
    (List.perm_ext_iff_of_nodup s.nodup t.nodup).mpr h
  refine Keyed.ext (hperm.eq_of_pairwise ?_ s.ordered t.ordered)
  intro a b _ _ hab hba
  have hswap : compare (key b) (key a) = (compare (key a) (key b)).swap :=
    Std.OrientedCmp.eq_swap
  rw [hswap, hab] at hba
  cases hba

/-- What was listed in ascending order is listed as it was. -/
theorem toList_ofList_of_ascending {l : List α} (h : Ascending key l) :
    (Keyed.ofList l : Keyed key).toList = l := by
  suffices hs : ∀ (l : List α) (s : Keyed key), Ascending key (s.toList ++ l) →
      (l.foldl insert s).toList = s.toList ++ l from hs l .empty (by simpa using h)
  intro l
  induction l with
  | nil => simp
  | cons a rest ih =>
    intro s hs
    have hlast : ∀ b ∈ s.toList, compare (key b) (key a) = .lt :=
      fun b hb => (List.pairwise_append.mp hs).2.2 b hb a List.mem_cons_self
    have hins : (s.insert a).toList = s.toList ++ [a] := insertSorted_of_last hlast
    rw [List.foldl_cons, ih (s.insert a) (by rw [hins]; simpa using hs), hins]
    simp

theorem ofList_toList (s : Keyed key) : Keyed.ofList s.toList = s :=
  Keyed.ext (toList_ofList_of_ascending s.ordered)

/-! ## Values of the same keys -/

omit [Std.TransOrd κ] in
theorem forall₂_insertSorted {r : α → α → Prop} (hkey : ∀ a b, r a b → key a = key b) {a b : α}
    {l l' : List α} (hab : r a b) (h : List.Forall₂ r l l') :
    List.Forall₂ r (insertSorted key a l) (insertSorted key b l') := by
  induction h with
  | nil => exact .cons hab .nil
  | cons hhead htail ih =>
    rw [insertSorted, insertSorted, hkey _ _ hab, hkey _ _ hhead]
    split
    · exact .cons hab (.cons hhead htail)
    · exact .cons hab htail
    · exact .cons hhead ih

/-- Related values with the same keys make sets with related members. -/
theorem forall₂_ofList {r : α → α → Prop} (hkey : ∀ a b, r a b → key a = key b) {l l' : List α}
    (h : List.Forall₂ r l l') :
    List.Forall₂ r (Keyed.ofList l : Keyed key).toList (Keyed.ofList l' : Keyed key).toList := by
  suffices hs : ∀ s t : Keyed key, List.Forall₂ r s.toList t.toList →
      List.Forall₂ r (l.foldl insert s).toList (l'.foldl insert t).toList from
    hs .empty .empty .nil
  induction h with
  | nil => exact fun _ _ hst => hst
  | cons hhead _ ih => exact fun s t hst => ih _ _ (forall₂_insertSorted hkey hhead hst)

omit [Std.TransOrd κ] in
theorem contains_of_isEmpty {s : Keyed key} (h : s.isEmpty = true) {k : κ} :
    s.contains k = false := by
  rw [contains, List.isEmpty_iff.mp h]
  rfl

section Lawful

variable [Std.LawfulEqOrd κ]

theorem mem_insert {s : Keyed key} {a b : α} :
    b ∈ (s.insert a).toList ↔ b = a ∨ b ∈ s.toList ∧ key b ≠ key a := by
  constructor
  · intro h
    by_cases hkey : key b = key a
    · exact .inl ((s.insert a).eq_of_key_eq h (mem_insertSorted_self a s.toList) hkey)
    · exact (mem_of_mem_insertSorted h).imp_right fun h => ⟨h, hkey⟩
  · rintro (rfl | ⟨h, hkey⟩)
    · exact mem_insertSorted_self _ _
    · refine mem_insertSorted_of_mem h ?_
      rw [ne_eq, Std.compare_eq_iff_eq]
      exact Ne.symm hkey

/-- A value takes the place of one with the same key. -/
theorem insert_insert {s : Keyed key} {a b : α} (h : key a = key b) :
    (s.insert a).insert b = s.insert b := by
  refine ext_mem fun x => ?_
  simp only [mem_insert, h]
  constructor
  · rintro (hx | ⟨rfl | hx, hne⟩)
    · exact .inl hx
    · exact absurd h hne
    · exact .inr hx
  · rintro (hx | ⟨hx, hne⟩)
    · exact .inl hx
    · exact .inr ⟨.inr ⟨hx, hne⟩, hne⟩

omit [Std.TransOrd κ] in
theorem mem_erase {s : Keyed key} {k : κ} {a : α} :
    a ∈ (s.erase k).toList ↔ a ∈ s.toList ∧ key a ≠ k := by
  simp [erase]

omit [Std.TransOrd κ] in
theorem contains_iff {s : Keyed key} {k : κ} :
    s.contains k = true ↔ ∃ a ∈ s.toList, key a = k := by
  simp [contains]

theorem get?_eq_some_iff {s : Keyed key} {k : κ} {a : α} :
    s.get? k = some a ↔ a ∈ s.toList ∧ key a = k := by
  constructor
  · intro h
    exact ⟨List.mem_of_find?_eq_some h, by simpa using List.find?_some h⟩
  · rintro ⟨h, hkey⟩
    cases hf : s.get? k with
    | none =>
      have := List.find?_eq_none.mp hf a h
      simp [hkey, Std.ReflOrd.compare_self] at this
    | some b =>
      have hb : b ∈ s.toList := List.mem_of_find?_eq_some hf
      have hkb : key b = k := by simpa using List.find?_some hf
      rw [s.eq_of_key_eq hb h (hkb.trans hkey.symm)]

omit [Std.TransOrd κ] in
theorem contains_eq_false_iff {s : Keyed key} {k : κ} :
    s.contains k = false ↔ ∀ a ∈ s.toList, key a ≠ k := by
  simp [contains]

/-- A fresh value makes the set larger by one. -/
theorem perm_insert {s : Keyed key} {a : α} (h : s.contains (key a) = false) :
    (s.insert a).toList.Perm (a :: s.toList) := by
  have hnot := contains_eq_false_iff.mp h
  have hnodup : (a :: s.toList).Nodup := List.nodup_cons.mpr ⟨fun ha => hnot a ha rfl, s.nodup⟩
  refine (List.perm_ext_iff_of_nodup (s.insert a).nodup hnodup).mpr fun b => ?_
  rw [mem_insert, List.mem_cons]
  exact or_congr_right ⟨And.left, fun hb => ⟨hb, hnot b hb⟩⟩

/-- Removing a member makes the set smaller by one. -/
theorem perm_erase {s : Keyed key} {a : α} (h : a ∈ s.toList) :
    s.toList.Perm (a :: (s.erase (key a)).toList) := by
  have hnodup : (a :: (s.erase (key a)).toList).Nodup :=
    List.nodup_cons.mpr ⟨fun ha => (mem_erase.mp ha).2 rfl, (s.erase (key a)).nodup⟩
  refine (List.perm_ext_iff_of_nodup s.nodup hnodup).mpr fun b => ?_
  rw [List.mem_cons, mem_erase]
  constructor
  · intro hb
    by_cases hkey : key b = key a
    · exact .inl (s.eq_of_key_eq hb h hkey)
    · exact .inr ⟨hb, hkey⟩
  · rintro (rfl | hb)
    · exact h
    · exact hb.1

theorem size_erase {s : Keyed key} {a : α} (h : a ∈ s.toList) :
    (s.erase (key a)).size + 1 = s.size :=
  (perm_erase h).length_eq.symm

theorem erase_eq_self {s : Keyed key} {k : κ} (h : s.contains k = false) : s.erase k = s := by
  refine ext_mem fun b => ?_
  rw [mem_erase, and_iff_left_iff_imp]
  exact contains_eq_false_iff.mp h b

/-- Without the value that was stored, a set is as it was without the value it
replaced. -/
theorem erase_insert_self {s : Keyed key} {a : α} :
    (s.insert a).erase (key a) = s.erase (key a) := by
  refine ext_mem fun b => ?_
  rw [mem_erase, mem_erase, mem_insert]
  constructor
  · rintro ⟨rfl | hb, hne⟩
    · exact absurd rfl hne
    · exact ⟨hb.1, hne⟩
  · exact fun ⟨hb, hne⟩ => ⟨.inr ⟨hb, hne⟩, hne⟩

/-- What a fresh value brings can be taken away again. -/
theorem erase_insert {s : Keyed key} {a : α} (h : s.contains (key a) = false) :
    (s.insert a).erase (key a) = s :=
  erase_insert_self.trans (erase_eq_self h)

theorem size_insert {s : Keyed key} {a : α} :
    (s.insert a).size = if s.contains (key a) then s.size else s.size + 1 := by
  split
  next h =>
    obtain ⟨b, hb, hkey⟩ := contains_iff.mp h
    have ha : a ∈ (s.insert a).toList := mem_insertSorted_self a s.toList
    have hafter := size_erase ha
    have hbefore := size_erase hb
    rw [erase_insert_self] at hafter
    rw [hkey] at hbefore
    exact hafter.symm.trans hbefore
  next h =>
    rw [Bool.not_eq_true] at h
    exact (perm_insert h).length_eq

theorem filter_insert {s : Keyed key} {p : α → Bool} {a : α} (h : p a = true) :
    (s.insert a).filter p = (s.filter p).insert a := by
  refine ext_mem fun b => ?_
  rw [mem_filter, mem_insert, mem_insert, mem_filter]
  constructor
  · rintro ⟨rfl | hb, hp⟩
    · exact .inl rfl
    · exact .inr ⟨⟨hb.1, hp⟩, hb.2⟩
  · rintro (rfl | hb)
    · exact ⟨.inl rfl, h⟩
    · exact ⟨.inr ⟨hb.1.1, hb.2⟩, hb.1.2⟩

/-- A value under a key that is filtered out makes no difference. -/
theorem filter_insert_of_excluded {s : Keyed key} {p : α → Bool} {a : α}
    (h : ∀ b, key b = key a → p b = false) : (s.insert a).filter p = s.filter p := by
  refine ext_mem fun b => ?_
  rw [mem_filter, mem_filter, mem_insert]
  constructor
  · rintro ⟨rfl | hb, hp⟩
    · rw [h b rfl] at hp
      cases hp
    · exact ⟨hb.1, hp⟩
  · rintro ⟨hb, hp⟩
    refine ⟨.inr ⟨hb, fun hkey => ?_⟩, hp⟩
    rw [h b hkey] at hp
    cases hp

theorem filter_erase {s : Keyed key} {p : α → Bool} {k : κ} :
    (s.erase k).filter p = (s.filter p).erase k := by
  refine ext_mem fun b => ?_
  rw [mem_filter, mem_erase, mem_erase, mem_filter]
  exact and_right_comm

theorem contains_insert {s : Keyed key} {a : α} {k : κ} :
    (s.insert a).contains k = true ↔ key a = k ∨ s.contains k = true := by
  simp only [contains_iff, mem_insert]
  constructor
  · rintro ⟨b, rfl | ⟨hb, -⟩, hk⟩
    · exact .inl hk
    · exact .inr ⟨b, hb, hk⟩
  · rintro (hk | ⟨b, hb, hk⟩)
    · exact ⟨a, .inl rfl, hk⟩
    · by_cases hkey : key b = key a
      · exact ⟨a, .inl rfl, hkey.symm.trans hk⟩
      · exact ⟨b, .inr ⟨hb, hkey⟩, hk⟩

/-- The keys of a set built from a list are those of the list. -/
theorem contains_ofList {l : List α} {k : κ} :
    (Keyed.ofList l : Keyed key).contains k = true ↔ ∃ a ∈ l, key a = k := by
  suffices hs : ∀ (l : List α) (s : Keyed key), (l.foldl insert s).contains k = true ↔
      s.contains k = true ∨ ∃ a ∈ l, key a = k by
    rw [ofList, hs]
    simp [contains_iff]
  intro l
  induction l with
  | nil => simp
  | cons a rest ih =>
    intro s
    rw [List.foldl_cons, ih, contains_insert]
    simp [or_assoc, or_left_comm]

/-- The last value of every key wins. -/
theorem mem_ofList {l : List α} {a : α} :
    a ∈ (Keyed.ofList l : Keyed key).toList ↔
      ∃ front back, l = front ++ a :: back ∧ ∀ b ∈ back, key b ≠ key a := by
  induction l using List.reverseRecOn with
  | nil => simp [ofList]
  | append_singleton l last ih =>
    have hlast : (Keyed.ofList (l ++ [last]) : Keyed key) = (Keyed.ofList l).insert last := by
      simp [ofList]
    rw [hlast, mem_insert, ih]
    constructor
    · rintro (rfl | ⟨⟨front, back, rfl, hback⟩, hne⟩)
      · exact ⟨l, [], by simp⟩
      · refine ⟨front, back ++ [last], by simp, fun b hb => ?_⟩
        rcases List.mem_append.mp hb with hb | hb
        · exact hback b hb
        · exact List.mem_singleton.mp hb ▸ hne.symm
    · rintro ⟨front, back, heq, hback⟩
      -- Either nothing comes behind `a`, or the last value does.
      rcases List.eq_nil_or_concat back with rfl | ⟨back, x, rfl⟩
      · obtain ⟨-, hlast⟩ := List.append_inj' heq rfl
        exact .inl (List.singleton_inj.mp hlast).symm
      · have hsplit : l ++ [last] = (front ++ a :: back) ++ [x] := by simpa using heq
        obtain ⟨rfl, hx⟩ := List.append_inj' hsplit rfl
        obtain rfl := List.singleton_inj.mp hx
        refine .inr ⟨⟨front, back, rfl, fun b hb => hback b (by simp [hb])⟩, ?_⟩
        exact (hback last (by simp)).symm

/-- Of a list without repeated keys every value stays. -/
theorem mem_ofList_of_nodup {l : List α} {a : α} (hnodup : (l.map key).Nodup) :
    a ∈ (Keyed.ofList l : Keyed key).toList ↔ a ∈ l := by
  rw [mem_ofList]
  constructor
  · rintro ⟨front, back, rfl, -⟩
    simp
  · intro ha
    obtain ⟨front, back, rfl⟩ := List.append_of_mem ha
    refine ⟨front, back, rfl, fun b hb heq => ?_⟩
    rw [List.map_append, List.map_cons] at hnodup
    have hnot := (List.nodup_cons.mp (List.nodup_append.mp hnodup).2.1).1
    exact hnot (heq ▸ List.mem_map_of_mem hb)

/-- A set forgets the order in which it was listed. -/
theorem ofList_eq_of_perm {l l' : List α} (hnodup : (l.map key).Nodup) (hperm : l'.Perm l) :
    (Keyed.ofList l' : Keyed key) = Keyed.ofList l := by
  have hnodup' : (l'.map key).Nodup := (hperm.map key).nodup_iff.mpr hnodup
  refine ext_mem fun a => ?_
  rw [mem_ofList_of_nodup hnodup', mem_ofList_of_nodup hnodup]
  exact hperm.mem_iff

end Lawful

end Keyed

/-! ## Tables -/

namespace Table

universe u v

variable {α : Type v} {κ : Type u} [Ord κ] [Std.TransOrd κ] [Std.LawfulEqOrd κ]

theorem lookup_eq_some_iff {t : Table κ α} {k : κ} {a : α} :
    t.lookup k = some a ↔ (k, a) ∈ t.toList := by
  rw [lookup, Option.map_eq_some_iff]
  constructor
  · rintro ⟨⟨k', a'⟩, h, rfl⟩
    obtain ⟨hmem, rfl⟩ := Keyed.get?_eq_some_iff.mp h
    exact hmem
  · exact fun h => ⟨(k, a), Keyed.get?_eq_some_iff.mpr ⟨h, rfl⟩, rfl⟩

/-- What is stored last under a key stays. -/
theorem put_put (t : Table κ α) (k : κ) (a b : α) : (t.put k a).put k b = t.put k b :=
  Keyed.insert_insert (show (k, a).1 = (k, b).1 from rfl)

/-- A table answers with what was put last under a key. -/
theorem lookup_put {t : Table κ α} {k k' : κ} {a : α} [DecidableEq κ] :
    (t.put k a).lookup k' = if k' = k then some a else t.lookup k' := by
  ext b
  rw [lookup_eq_some_iff, put, Keyed.mem_insert]
  by_cases h : k' = k
  · simp [h, eq_comm]
  · simp [h, lookup_eq_some_iff]

/-- The last value that a list of entries gives a key. -/
def lastOf [DecidableEq κ] (entries : List (κ × α)) (key : κ) : Option α :=
  (entries.filterMap fun e => if e.1 = key then some e.2 else none).getLast?

/-- Entries that are stored over a table hide what it has under their keys. -/
theorem lookup_insertAll [DecidableEq κ] (t : Table κ α) (entries : List (κ × α)) (key : κ) :
    lookup (t.insertAll entries) key = (lastOf entries key).or (t.lookup key) := by
  induction entries using List.reverseRecOn with
  | nil => simp [lastOf, Keyed.insertAll]
  | append_singleton entries e ih =>
    have hstep : t.insertAll (entries ++ [e]) = put (t.insertAll entries) e.1 e.2 := by
      simp [Keyed.insertAll, put]
    rw [hstep, lookup_put, ih, lastOf, lastOf, List.filterMap_append, List.getLast?_append]
    by_cases h : key = e.1
    · simp [h]
    · simp [h, Ne.symm h]

theorem lookup_ofList [DecidableEq κ] (entries : List (κ × α)) (key : κ) :
    lookup (.ofList entries) key = lastOf entries key := by
  have h := lookup_insertAll .empty entries key
  rwa [show lookup (.empty : Table κ α) key = none from rfl, Option.or_none] at h

/-- A table that is stored over another one hides it. -/
theorem lookup_insertAll_toList [DecidableEq κ] (t d : Table κ α) (key : κ) :
    lookup (t.insertAll d.toList) key = (d.lookup key).or (t.lookup key) := by
  rw [lookup_insertAll, ← lookup_ofList, Keyed.ofList_toList]

end Table

end Roster
