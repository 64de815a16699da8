/-
Roster.Proofs.Summary — the status and the plan tell the same.

The status counts in 32 bits and counts every member; the plan compares
natural numbers and leaves out members that are being deleted when it looks
for outdated ones.  `replicaCount_lt_iff` brings the two together: as long as
the members can be counted, comparing counts is comparing sizes.  So the
condition about the size names the step that is planned.
-/
import Roster.Proofs.Conditions
import Roster.Proofs.Planning
import Roster.Sample

namespace Roster

/-! ## Counts in 32 bits -/

theorem toInt_replicaCount (n : Nat) : (replicaCount n).toInt = (min n 2147483647 : Nat) := by
  rw [replicaCount, Int32.toInt_ofNat_of_lt (by omega)]

theorem replicaCount_nonneg (n : Nat) : 0 ≤ replicaCount n := by
  rw [Int32.le_iff_toInt_le, toInt_replicaCount, Int32.toInt_zero]
  omega

theorem replicaCount_mono {n m : Nat} (h : n ≤ m) : replicaCount n ≤ replicaCount m := by
  rw [Int32.le_iff_toInt_le, toInt_replicaCount, toInt_replicaCount]
  omega

theorem replicaCount_lt_iff {n m : Nat} (hn : n < 2147483648) (hm : m < 2147483648) :
    replicaCount n < replicaCount m ↔ n < m := by
  rw [Int32.lt_iff_toInt_lt, toInt_replicaCount, toInt_replicaCount]
  omega

theorem replicaCount_inj {n m : Nat} (hn : n < 2147483648) (hm : m < 2147483648) :
    replicaCount n = replicaCount m ↔ n = m := by
  rw [← Int32.toInt_inj, toInt_replicaCount, toInt_replicaCount]
  omega

/-! ## The condition about the size -/

namespace ControlPlaneStatus

/-- Whether the status shows that the control plane has its size. -/
def isResized (st : ControlPlaneStatus) : Bool :=
  (Condition.find? Condition.resized st.conditions).any Condition.isTrue

/-- Whether the status shows that the control plane does not have its size, for a
reason. -/
def isOffSize (st : ControlPlaneStatus) (reason : String) : Bool :=
  (Condition.find? Condition.resized st.conditions).any fun c =>
    c.status == .fails && c.reason == some reason

end ControlPlaneStatus

namespace Scope

variable {s : Scope} {now : Instant}

theorem isTrue_convergence {actual desired : Int32} :
    (convergence now actual desired).isTrue = true ↔ actual = desired := by
  unfold convergence
  dsimp only
  split
  next heq => simp [Condition.isTrue, Condition.holding, heq]
  next hne => split <;> simp [Condition.isTrue, Condition.failing, hne]

theorem reason_convergence_up {actual desired : Int32} :
    (convergence now actual desired).status = .fails ∧
      (convergence now actual desired).reason = some "ScalingUp" ↔ actual < desired := by
  unfold convergence
  dsimp only
  split
  next heq => simp [Condition.holding, heq]
  next hne => split <;> simp [Condition.failing, *]

theorem reason_convergence_down {actual desired : Int32} :
    (convergence now actual desired).status = .fails ∧
      (convergence now actual desired).reason = some "ScalingDown" ↔ desired < actual := by
  unfold convergence
  dsimp only
  split
  next heq => simp [Condition.holding, heq]
  next hne =>
    split
    next hlt => simp [Condition.failing, Int32.le_of_lt hlt]
    next hnot =>
      have hgt : desired < actual := Int32.lt_of_le_of_ne (Int32.not_lt.mp hnot) (Ne.symm hne)
      simp [Condition.failing, hgt]

/-- The condition about the size is set last, so it is the one that is found. -/
theorem find?_resized (s : Scope) (now : Instant) :
    ∃ c, Condition.find? Condition.resized (s.status now).conditions = some c ∧
      ∃ since, c = { convergence now (replicaCount s.members.size) (replicaCount s.desired) with
        since := since } := by
  obtain ⟨since, hfound⟩ := Condition.find?_set_self
    (convergence now (replicaCount s.members.size) (replicaCount s.desired))
    (Condition.set (availability now (s.status now).ready)
      (s.controlPlane.status.getD .empty).conditions)
  refine ⟨_, ?_, since, rfl⟩
  rw [← convergence_type now (replicaCount s.members.size) (replicaCount s.desired)]
  exact hfound

theorem isResized_status : (s.status now).isResized = true ↔
    replicaCount s.members.size = replicaCount s.desired := by
  obtain ⟨_, hfound, since, rfl⟩ := s.find?_resized now
  rw [ControlPlaneStatus.isResized, hfound, Option.any_some, ← isTrue_convergence]
  rfl

theorem isOffSize_status {reason : String} : (s.status now).isOffSize reason = true ↔
    (convergence now (replicaCount s.members.size) (replicaCount s.desired)).status = .fails ∧
    (convergence now (replicaCount s.members.size) (replicaCount s.desired)).reason =
      some reason := by
  obtain ⟨_, hfound, since, rfl⟩ := s.find?_resized now
  rw [ControlPlaneStatus.isOffSize, hfound]
  simp

/-! ## The counts -/

/-- The members that are being deleted and are not as specified. -/
def leaving (s : Scope) : Members :=
  s.members.filter fun m => m.isDeleting && !s.controlPlane.isCurrent m

/-- A member is as specified, to be replaced, or leaving anyway. -/
theorem size_members (s : Scope) :
    s.members.size = s.current.size + s.outdated.size + s.leaving.size := by
  have hold : s.members.toList.countP (fun m => !s.controlPlane.isCurrent m) =
      s.outdated.size + s.leaving.size := by
    rw [outdated, leaving, Keyed.size_filter, Keyed.size_filter,
      List.countP_eq_countP_filter_add _ _ fun m => !m.isDeleting, List.countP_filter,
      List.countP_filter]
    simp only [Bool.not_not, Bool.and_comm]
  have hsplit := s.members.toList.length_eq_countP_add_countP s.controlPlane.isCurrent
  rw [current, Keyed.size_filter, Nat.add_assoc, ← hold, Keyed.size]
  simpa using hsplit

theorem desired_lt (s : Scope) : s.desired < 2147483648 := by
  have hlt := s.controlPlane.spec.desiredReplicas.toInt_lt
  unfold desired
  omega

theorem size_filter_le (s : Scope) (p : Machine → Bool) :
    (s.members.filter p).size ≤ s.members.size := by
  rw [Keyed.size_filter]
  exact List.countP_le_length

/-- The status and the plan tell the same.  For any number of members the counts of
a status are between zero and the number of members, and do not overflow, and it is
remembered that a member was healthy.  As long as the members can be counted, the
counts add up, and the condition about the size tells which step is planned: none
is, one that adds a member is (if no member is outdated), or one that removes a
member is (whether or not there are outdated ones). -/
theorem status_tells_plan (s : Scope) (now : Instant) :
    let shown := s.status now
    (0 ≤ shown.readyReplicas ∧ shown.readyReplicas ≤ shown.replicas ∧
      0 ≤ shown.updatedReplicas ∧ shown.updatedReplicas ≤ shown.replicas ∧
      shown.unavailableReplicas.toInt = shown.replicas.toInt - shown.readyReplicas.toInt ∧
      (shown.ready = true ↔ 0 < shown.readyReplicas) ∧
      ∀ previous, s.controlPlane.status = some previous → previous.initialized = true →
        shown.initialized = true) ∧
    (s.members.size < 2147483648 →
      shown.replicas.toInt =
        shown.updatedReplicas.toInt + s.outdated.size + s.leaving.size ∧
      (s.plan = .stable ↔ shown.isResized = true ∧ s.outdated.isEmpty = true) ∧
      (s.outdated.isEmpty = true →
        (shown.isOffSize "ScalingUp" = true ↔ s.plan = .found ∨ s.plan = .grow)) ∧
      (shown.isOffSize "ScalingDown" = true ↔ ∃ rollout, s.plan = .shrink rollout)) := by
  intro shown
  have hready : shown.readyReplicas ≤ shown.replicas := replicaCount_mono (s.size_filter_le _)
  have hnonneg : 0 ≤ shown.readyReplicas := replicaCount_nonneg _
  refine ⟨⟨hnonneg, hready, replicaCount_nonneg _, replicaCount_mono (s.size_filter_le _), ?_, ?_,
    ?_⟩, fun hfew => ⟨?_, ?_, ?_, ?_⟩⟩
  · exact Int32.toInt_sub_of_le _ _ hnonneg hready
  · exact decide_eq_true_iff
  · intro previous hprevious hinitialized
    show ((s.controlPlane.status.getD .empty).initialized || shown.ready) = true
    rw [hprevious, Option.getD_some, hinitialized, Bool.true_or]
  · have hsize := s.size_members
    show (replicaCount s.members.size).toInt = (replicaCount s.current.size).toInt + _ + _
    rw [toInt_replicaCount, toInt_replicaCount]
    omega
  -- Both sizes fit in 32 bits, so counts compare as the sizes do.
  · rw [isResized_status, replicaCount_inj hfew s.desired_lt]
    exact plan_eq_stable_iff
  · intro hnone
    rw [isOffSize_status, reason_convergence_up, replicaCount_lt_iff hfew s.desired_lt]
    exact (plan_adds_iff hnone).symm
  · rw [isOffSize_status, reason_convergence_down, replicaCount_lt_iff s.desired_lt hfew]
    exact exists_plan_eq_shrink_iff.symm

end Scope

/-- Of five members where three are desired, four are healthy and three are as
specified; of the other two one is to be replaced, and one is leaving.  The
status tells that the control plane shrinks, as is planned. -/
theorem assorted_members_are_told :
    let p : ControlPlane := { Sample.controlPlane "cp" 3 with
      status := some { ControlPlaneStatus.empty with initialized := true } }
    let s := Scope.ofMachines p (Sample.cluster Sample.clusterName ["az-1"]) (Sample.assorted p)
    let shown := s.status (.ofSeconds Sample.epoch)
    s.members.size < 2147483648 ∧ s.outdated.size = 1 ∧ s.leaving.size = 1 ∧
      shown.replicas = 5 ∧ shown.readyReplicas = 4 ∧ shown.unavailableReplicas.toInt = 1 ∧
      shown.updatedReplicas.toInt = 3 ∧ shown.ready = true ∧ shown.initialized = true ∧
      s.plan = .shrink true ∧ shown.isOffSize "ScalingDown" = true := by
  intro p s shown
  have hsizes : s.members.size = 5 ∧ s.outdated.size = 1 ∧ s.leaving.size = 1 := by
    decide +kernel
  have hcounts : shown.replicas = 5 ∧ shown.readyReplicas = 4 := by decide +kernel
  have hplan : s.plan = .shrink true := by decide +kernel
  obtain ⟨hfive, hone, hleaving⟩ := hsizes
  obtain ⟨hreplicas, hhealthy⟩ := hcounts
  have hfew : s.members.size < 2147483648 := by omega
  obtain ⟨⟨-, -, -, -, hunavailable, hready, hinitialized⟩, htold⟩ :=
    s.status_tells_plan (.ofSeconds Sample.epoch)
  obtain ⟨hsum, -, -, hdown⟩ := htold hfew
  have htotal : shown.replicas.toInt = 5 := by rw [hreplicas]; rfl
  have hfour : shown.readyReplicas.toInt = 4 := by rw [hhealthy]; rfl
  have hrest : shown.unavailableReplicas.toInt = 5 - 4 :=
    hunavailable.trans (congrArg₂ (· - ·) htotal hfour)
  have hcurrent : (5 : Int) = shown.updatedReplicas.toInt + s.outdated.size + s.leaving.size :=
    htotal.symm.trans hsum
  refine ⟨hfew, hone, hleaving, hreplicas, hhealthy, by omega, by omega, ?_,
    hinitialized _ rfl rfl, hplan, hdown.mpr ⟨true, hplan⟩⟩
  exact hready.mpr (by rw [hhealthy]; decide)

end Roster
