/-
Roster.Proofs.Planning — what a planned step says about the members.

`callsFor_plan` tells for every step when it is the planned one.  The
four cases exclude each other, so they also tell which step is planned:
`plan_eq_stable_iff` is the case that ends the work.
-/
import Roster.Plan
import Roster.Proofs.Keyed

namespace Roster

/-- Whether a step adds a member. -/
def Plan.adds : Plan → Bool
  | .found => true
  | .grow => true
  | .shrink _ => false
  | .stable => false

namespace Scope

variable {s : Scope}

theorem outdated_subset {m : Machine} (h : m ∈ s.outdated.toList) : m ∈ s.members.toList :=
  (Keyed.mem_filter.mp h).1

/-- A control plane without members has no outdated ones. -/
theorem outdated_isEmpty_of_size_eq_zero (h : s.members.size = 0) : s.outdated.isEmpty = true := by
  rw [← Bool.not_eq_false, Keyed.isEmpty_eq_false_iff]
  rintro ⟨m, hm⟩
  have hmem := outdated_subset hm
  rw [List.eq_nil_of_length_eq_zero h] at hmem
  cases hmem

/-- The outdated members are handed over whether or not there are any. -/
theorem outdated_eq : (if !s.outdated.isEmpty then s.outdated else .empty) = s.outdated := by
  cases hempty : s.outdated.isEmpty with
  | false => rfl
  | true => exact Keyed.ext (List.isEmpty_iff.mp hempty).symm

/-- A member that stays and is not outdated is as specified. -/
theorem isCurrent_of_isEmpty_outdated {m : Machine} (hnone : s.outdated.isEmpty = true)
    (hm : m ∈ s.members.toList) (hstays : m.isDeleting = false) :
    s.controlPlane.isCurrent m = true := by
  rw [← Bool.not_eq_false]
  intro hold
  have hout : m ∈ s.outdated.toList :=
    Keyed.mem_filter.mpr ⟨hm, by rw [hstays, hold]; rfl⟩
  rw [List.isEmpty_iff.mp hnone] at hout
  cases hout

/-- When a step is called for. -/
def CallsFor (s : Scope) : Plan → Prop
  | .found => s.members.size = 0 ∧ 0 < s.desired
  | .grow => 0 < s.members.size ∧ s.members.size ≤ s.desired ∧
      (s.members.size = s.desired → s.outdated.isEmpty = false)
  | .shrink rollout => s.desired < s.members.size ∧ rollout = !s.outdated.isEmpty
  | .stable => s.members.size = s.desired ∧ s.outdated.isEmpty = true

/-- The planned step is called for. -/
theorem callsFor_plan (s : Scope) : s.CallsFor s.plan := by
  unfold plan
  dsimp only
  split
  next hzero =>
    split
    next hpos => exact ⟨hzero, hpos⟩
    · exact ⟨by omega, outdated_isEmpty_of_size_eq_zero hzero⟩
  next hpos =>
    cases hout : s.outdated.isEmpty with
    | false =>
      rw [if_pos Bool.not_false]
      split
      next hle => exact ⟨by omega, hle, fun _ => hout⟩
      next hlt => exact ⟨by omega, by rw [hout]; rfl⟩
    | true =>
      rw [if_neg (by simp)]
      split
      next hlt => exact ⟨by omega, by omega, fun heq => by omega⟩
      · split
        next hlt => exact ⟨hlt, by rw [hout]; rfl⟩
        · exact ⟨by omega, hout⟩

/-- A member is added up to the desired number, and beyond it only while there
are outdated ones. -/
theorem room_of_adds (h : s.plan.adds = true) :
    s.members.size ≤ s.desired ∧ (s.members.size = s.desired → s.outdated.isEmpty = false) := by
  have hcalled := s.callsFor_plan
  cases hplan : s.plan with
  | found =>
    rw [hplan] at hcalled
    obtain ⟨hzero, hpos⟩ := hcalled
    exact ⟨by omega, fun heq => by omega⟩
  | grow =>
    rw [hplan] at hcalled
    exact hcalled.2
  | shrink rollout => simp [hplan, Plan.adds] at h
  | stable => simp [hplan, Plan.adds] at h

theorem plan_eq_stable_iff :
    s.plan = .stable ↔ s.members.size = s.desired ∧ s.outdated.isEmpty = true := by
  have hspec := s.callsFor_plan
  constructor
  · intro h
    rwa [h] at hspec
  · rintro ⟨hsize, hout⟩
    cases hplan : s.plan with
    | stable => rfl
    | found =>
      rw [hplan] at hspec
      exact absurd hspec.2 (by have := hspec.1; omega)
    | grow =>
      rw [hplan] at hspec
      exact absurd (hspec.2.2 hsize) (by simp [hout])
    | shrink rollout =>
      rw [hplan] at hspec
      exact absurd hspec.1 (by omega)

/-- A member is removed when there are too many, outdated ones or not. -/
theorem exists_plan_eq_shrink_iff :
    (∃ rollout, s.plan = .shrink rollout) ↔ s.desired < s.members.size := by
  have hcalled := s.callsFor_plan
  cases hplan : s.plan with
  | found =>
    rw [hplan] at hcalled
    simp [hcalled.1]
  | grow =>
    rw [hplan] at hcalled
    simp [hcalled.2.1]
  | shrink rollout =>
    rw [hplan] at hcalled
    simp [hcalled.1]
  | stable =>
    rw [hplan] at hcalled
    simp [hcalled.1]

/-- Without outdated members, one is added when there are too few. -/
theorem plan_adds_iff (hnone : s.outdated.isEmpty = true) :
    s.plan = .found ∨ s.plan = .grow ↔ s.members.size < s.desired := by
  have hcalled := s.callsFor_plan
  cases hplan : s.plan with
  | found =>
    rw [hplan] at hcalled
    simp [hcalled.1, hcalled.2]
  | grow =>
    rw [hplan] at hcalled
    obtain ⟨-, hle, hequal⟩ := hcalled
    have hne : s.members.size ≠ s.desired := fun heq => by simp [hequal heq] at hnone
    simp [Nat.lt_of_le_of_ne hle hne]
  | shrink rollout =>
    rw [hplan] at hcalled
    simp [Nat.le_of_lt hcalled.1]
  | stable =>
    rw [hplan] at hcalled
    simp [hcalled.1]

end Scope

end Roster
