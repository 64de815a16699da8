/-
Roster.Proofs.Preflight — what it means that the check before a step was
passed.

A member is steady when its deletion was not requested and its agent is
healthy.  `preflight_eq_passed_iff`: the check is passed exactly when
every member is steady, the excluded ones apart, and these are told by
their identity alone.
-/
import Roster.Proofs.Keyed
import Roster.Status

namespace Roster

/-- Whether a machine does not stand in the way of a change of the
membership. -/
def Machine.isSteady (m : Machine) : Bool := !m.isDeleting && m.isHealthy

theorem Machine.isSteady_iff {m : Machine} :
    m.isSteady = true ↔ m.isDeleting = false ∧ m.isHealthy = true := by
  simp [isSteady]

/-- A required condition is not at fault exactly when its first entry holds. -/
theorem Machine.conditionFault?_eq_none_iff {kind type : String} {m : Machine} :
    m.conditionFault? kind type = none ↔ (m.condition? type).any Condition.isTrue = true := by
  unfold Machine.conditionFault?
  cases m.condition? type with
  | none => simp
  | some c =>
    simp only [Option.any_some, Condition.isTrue]
    cases c.status <;> simp

namespace Preflight

theorem blocking_eq_none_iff {verdict : Preflight} :
    verdict.blocking = none ↔ verdict = .passed := by
  cases verdict <;> simp [blocking]

theorem faults_eq_nil_iff {machines : List Machine} :
    faults machines = [] ↔ ∀ m ∈ machines, m.isHealthy = true := by
  simp only [faults, requiredConditions, List.flatMap_eq_nil_iff, List.filterMap_eq_nil_iff,
    List.forall_mem_singleton, Machine.conditionFault?_eq_none_iff, Machine.isHealthy]

end Preflight

namespace Scope

/-- Every member is steady. -/
def AllSteady (s : Scope) : Prop := ∀ m ∈ s.members.toList, m.isSteady = true

/-- The members that a check looks at. -/
def checked (s : Scope) (excluded : List Machine) : Members :=
  s.members.filter fun m => !Members.has (.ofList excluded) m

/-- Excluded members are told by their identity. -/
theorem mem_checked {s : Scope} {excluded : List Machine} {m : Machine} :
    m ∈ (s.checked excluded).toList ↔
      m ∈ s.members.toList ∧ ∀ e ∈ excluded, e.identity ≠ m.identity := by
  have hhas : Members.has (.ofList excluded) m = false ↔
      ∀ e ∈ excluded, e.identity ≠ m.identity := by
    rw [← Bool.not_eq_true, Members.has, Keyed.contains_ofList]
    simp
  rw [checked, Keyed.mem_filter, Bool.not_eq_true', hhas]

theorem preflight_eq (s : Scope) (backoff : Backoff) (excluded : List Machine) :
    s.preflight backoff excluded =
      if !(s.checked excluded).deleting.isEmpty then
        .waitingForDeletion (s.checked excluded).deleting.names backoff.deletion
      else
        match Preflight.faults (s.checked excluded).toList with
        | [] => .passed
        | first :: others => .unhealthy first others backoff.unhealthy := rfl

/-- The check is passed exactly when every member is steady that is not
excluded. -/
theorem preflight_eq_passed_iff {s : Scope} {backoff : Backoff} {excluded : List Machine} :
    s.preflight backoff excluded = .passed ↔
      ∀ m ∈ s.members.toList, (∀ e ∈ excluded, e.identity ≠ m.identity) → m.isSteady = true := by
  have hgoal : (∀ m ∈ s.members.toList, (∀ e ∈ excluded, e.identity ≠ m.identity) →
      m.isSteady = true) ↔ ∀ m ∈ (s.checked excluded).toList, m.isSteady = true := by
    simp only [mem_checked, and_imp]
  rw [hgoal, preflight_eq]
  generalize s.checked excluded = checked
  have hdeleting : checked.deleting.isEmpty = true ↔
      ∀ m ∈ checked.toList, m.isDeleting = false := by
    simp [Members.deleting, Keyed.isEmpty, Keyed.filter, List.filter_eq_nil_iff]
  have hsteady : (∀ m ∈ checked.toList, m.isSteady = true) ↔
      (∀ m ∈ checked.toList, m.isDeleting = false) ∧ ∀ m ∈ checked.toList, m.isHealthy = true := by
    simp only [Machine.isSteady_iff, forall_and]
  rw [hsteady, ← hdeleting, ← Preflight.faults_eq_nil_iff]
  cases checked.deleting.isEmpty with
  | false => simp
  | true => cases Preflight.faults checked.toList <;> simp

end Scope

end Roster
