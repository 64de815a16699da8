/-
Roster.Proofs.Conditions — what can be found after a condition was set.

`Condition.set` works on the first entry of a type.  What is found under that
type afterwards is the condition that was set, but for the time, which it
takes from the one before if the status is the same (`find?_set`); what is
found under other types is as before (`find?_set_of_ne`).  A condition that
differs from the one there by the time only changes nothing when it is set
(`set_eq_self`): this is what lets a status come to rest.
-/
import Roster.Status

namespace Roster

namespace Condition

variable {c old : Condition} {type : String}

theorem find?_cons_of_eq (h : old.type = type) (cs : List Condition) :
    find? type (old :: cs) = some old := by
  simp [find?, h]

theorem find?_cons_of_ne (h : old.type ≠ type) (cs : List Condition) :
    find? type (old :: cs) = find? type cs := by
  simp [find?, h]

/-! ## One setting -/

/-- A condition in the place of an older one of its type: the time stays when
the status does. -/
def replacing (c old : Condition) : Condition :=
  if old.status = c.status then { c with since := old.since } else c

@[simp] theorem replacing_type (c old : Condition) : (c.replacing old).type = c.type := by
  unfold replacing
  split <;> rfl

theorem set_cons_of_eq (h : old.type = c.type) (rest : List Condition) :
    set c (old :: rest) = c.replacing old :: rest := if_pos h

theorem set_cons_of_ne (h : old.type ≠ c.type) (rest : List Condition) :
    set c (old :: rest) = old :: set c rest := if_neg h

/-- What is found after a setting: the condition in the place of the one that was
found before, or as it is when there was none. -/
theorem find?_set (c : Condition) (cs : List Condition) :
    find? c.type (set c cs) = some (((find? c.type cs).map c.replacing).getD c) := by
  induction cs with
  | nil => exact find?_cons_of_eq rfl []
  | cons old rest ih =>
    by_cases h : old.type = c.type
    · rw [set_cons_of_eq h, find?_cons_of_eq (replacing_type c old), find?_cons_of_eq h]
      rfl
    · rw [set_cons_of_ne h, find?_cons_of_ne h, find?_cons_of_ne h, ih]

theorem find?_set_self (c : Condition) (cs : List Condition) :
    ∃ since, find? c.type (set c cs) = some { c with since := since } := by
  rw [find?_set]
  cases find? c.type cs with
  | none => exact ⟨c.since, rfl⟩
  | some old =>
    rw [Option.map_some, Option.getD_some, replacing]
    split
    · exact ⟨old.since, rfl⟩
    · exact ⟨c.since, rfl⟩

theorem find?_set_of_ne (h : c.type ≠ type) (cs : List Condition) :
    find? type (set c cs) = find? type cs := by
  induction cs with
  | nil => simp [set, find?, h]
  | cons old rest ih =>
    by_cases heq : old.type = c.type
    · rw [set_cons_of_eq heq, find?_cons_of_ne (by simpa using h), find?_cons_of_ne (heq ▸ h)]
    · rw [set_cons_of_ne heq]
      by_cases htype : old.type = type
      · rw [find?_cons_of_eq htype, find?_cons_of_eq htype]
      · rw [find?_cons_of_ne htype, find?_cons_of_ne htype, ih]

/-- Setting what is there already changes nothing, whatever the time. -/
theorem set_eq_self {since : Option Instant} {cs : List Condition}
    (h : find? c.type cs = some { c with since := since }) : set c cs = cs := by
  induction cs with
  | nil => simp [find?] at h
  | cons old rest ih =>
    by_cases heq : old.type = c.type
    · rw [find?_cons_of_eq heq] at h
      obtain rfl := Option.some.inj h
      rw [set_cons_of_eq heq, replacing, if_pos rfl]
    · rw [find?_cons_of_ne heq] at h
      rw [set_cons_of_ne heq, ih h]

end Condition

/-! ## The conditions of a status -/

namespace Scope

@[simp] theorem availability_type (now : Instant) (ready : Bool) :
    (availability now ready).type = Condition.available := by
  cases ready <;> rfl

@[simp] theorem convergence_type (now : Instant) (actual desired : Int32) :
    (convergence now actual desired).type = Condition.resized := by
  unfold convergence
  dsimp only
  split
  · rfl
  · split <;> rfl

end Scope

end Roster
