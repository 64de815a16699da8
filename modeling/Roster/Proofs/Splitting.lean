/-
Roster.Proofs.Splitting — where a text is cut at a mark.

A cut keeps every character, and the mark it is made at is the first one
(`splitFirst?_eq_some_iff`) or the last one (`splitLast?_eq_some_iff`): the
part on that side holds no mark.  A text without the mark is not cut.
-/
import Roster.Text.Basic

namespace Roster.Text

variable {c : Char} {l rest before after : List Char}

/-! ## All parts -/

theorem parts_of_not_mem (h : c ∉ l) : parts c l = [l] := by
  induction l with
  | nil => rfl
  | cons d l ih =>
    rw [List.mem_cons, not_or] at h
    rw [parts, if_neg (Ne.symm h.1), ih h.2]

/-- The first part ends at the first separator. -/
theorem parts_append (h : c ∉ l) : parts c (l ++ c :: rest) = l :: parts c rest := by
  induction l with
  | nil => rw [List.nil_append, parts, if_pos rfl]
  | cons d l ih =>
    rw [List.mem_cons, not_or] at h
    rw [List.cons_append, parts, if_neg (Ne.symm h.1), ih h.2]

/-! ## The first mark -/

theorem splitFirst?_of_not_mem (h : c ∉ l) : splitFirst? c l = none := by
  induction l with
  | nil => rfl
  | cons d l ih =>
    rw [List.mem_cons, not_or] at h
    rw [splitFirst?, if_neg (Ne.symm h.1), ih h.2, Option.map_none]

theorem splitFirst?_append (h : c ∉ l) (rest : List Char) :
    splitFirst? c (l ++ c :: rest) = some (l, rest) := by
  induction l with
  | nil => rw [List.nil_append, splitFirst?, if_pos rfl]
  | cons d l ih =>
    rw [List.mem_cons, not_or] at h
    rw [List.cons_append, splitFirst?, if_neg (Ne.symm h.1), ih h.2, Option.map_some]

theorem splitFirst?_eq_some_iff :
    splitFirst? c l = some (before, after) ↔ l = before ++ c :: after ∧ c ∉ before := by
  constructor
  · intro h
    by_cases hmem : c ∈ l
    · obtain ⟨front, back, rfl, hnot⟩ := List.eq_append_cons_of_mem hmem
      rw [splitFirst?_append hnot] at h
      cases h
      exact ⟨rfl, hnot⟩
    · rw [splitFirst?_of_not_mem hmem] at h
      cases h
  · rintro ⟨rfl, h⟩
    exact splitFirst?_append h _

/-! ## The last mark -/

theorem splitLast?_of_not_mem (h : c ∉ l) : splitLast? c l = none := by
  induction l with
  | nil => rfl
  | cons d l ih =>
    rw [List.mem_cons, not_or] at h
    rw [splitLast?, ih h.2]
    exact if_neg (Ne.symm h.1)

theorem splitLast?_append (h : c ∉ rest) : splitLast? c (l ++ c :: rest) = some (l, rest) := by
  induction l with
  | nil =>
    rw [List.nil_append, splitLast?, splitLast?_of_not_mem h]
    exact if_pos rfl
  | cons d l ih => rw [List.cons_append, splitLast?, ih]

theorem splitLast?_eq_some_iff :
    splitLast? c l = some (before, after) ↔ l = before ++ c :: after ∧ c ∉ after := by
  constructor
  · intro h
    by_cases hmem : c ∈ l
    · -- The last mark is the first one from behind.
      obtain ⟨back, front, hback, hnot⟩ :=
        List.eq_append_cons_of_mem (List.mem_reverse.mpr hmem)
      obtain rfl : l = front.reverse ++ c :: back.reverse := by
        rw [← l.reverse_reverse, hback]
        simp
      have hnot : c ∉ back.reverse := fun h => hnot (List.mem_reverse.mp h)
      rw [splitLast?_append hnot] at h
      cases h
      exact ⟨rfl, hnot⟩
    · rw [splitLast?_of_not_mem hmem] at h
      cases h
  · rintro ⟨rfl, h⟩
    exact splitLast?_append h

end Roster.Text
