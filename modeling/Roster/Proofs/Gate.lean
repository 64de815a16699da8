/-
Roster.Proofs.Gate — what the check before a step returns and reports, for
every choice of members that are excluded from it.

`check_judged`: members that leave come before members that ail, and the
check names exactly those it finds, in the order of their identities.  The
excluded machines are told by their identities alone, so the check gives
the same answer whatever else is true of them, and it gives no worse one
when more of them are excluded.

All of it follows from the members the check looks at (`Scope.checked`),
which two scopes may have in common (`check_congr`).
-/
import Roster.Proofs.Preflight
import Roster.Sample
import Roster.Scaling

namespace Roster

/-- What is wrong with the health of a machine that is not healthy. -/
def Machine.ailment (m : Machine) : String :=
  match m.condition? agentHealthy with
  | none => "does not have " ++ agentHealthy ++ " condition"
  | some c =>
    if c.status = .unknown then
      "reports " ++ agentHealthy ++ " condition is unknown (" ++ c.message.getD "" ++ ")"
    else
      "reports " ++ agentHealthy ++ " condition is false (" ++
        (c.severity.map Severity.word).getD "" ++ ", " ++ c.message.getD "" ++ ")"

/-- The failure of a machine that is not healthy. -/
def Machine.healthFault (m : Machine) : Error :=
  .conditionCheck "machine" m.name agentHealthy m.ailment

theorem Machine.conditionFault?_agentHealthy (m : Machine) :
    m.conditionFault? "machine" agentHealthy = if m.isHealthy then none else some m.healthFault := by
  unfold conditionFault? isHealthy healthFault ailment
  cases m.condition? agentHealthy with
  | none => rfl
  | some c =>
    obtain ⟨type, status, severity, reason, message, since⟩ := c
    cases status <;> cases severity <;> rfl

/-- There is one failure for every machine that is not healthy. -/
theorem Preflight.faults_eq (machines : List Machine) :
    faults machines = (machines.filter fun m => !m.isHealthy).map Machine.healthFault := by
  induction machines with
  | nil => rfl
  | cons m rest ih =>
    have hone : requiredConditions.filterMap (m.conditionFault? "machine") =
        if m.isHealthy then [] else [m.healthFault] := by
      rw [requiredConditions, List.filterMap_cons, Machine.conditionFault?_agentHealthy]
      cases m.isHealthy <;> rfl
    rw [faults] at ih ⊢
    rw [List.flatMap_cons, ih, hone, List.filter_cons]
    cases m.isHealthy <;> rfl

namespace Scope

variable {σ : Type} {s t : Scope} {backoff : Backoff} {excluded others : List Machine}
  {j : Journal σ}

/-! ## The members looked at -/

/-- The members that are not excluded, in the order of their identities. -/
def staying (s : Scope) (excluded : List Identity) : List Machine :=
  s.members.toList.filter fun m => decide (m.identity ∉ excluded)

/-- The members looked at of which the deletion was requested. -/
def leavers (s : Scope) (excluded : List Identity) : List Machine :=
  (s.staying excluded).filter Machine.isDeleting

/-- The members looked at of which the first health condition is missing or does
not hold. -/
def ailing (s : Scope) (excluded : List Identity) : List Machine :=
  (s.staying excluded).filter fun m => !m.isHealthy

theorem toList_checked (s : Scope) (excluded : List Machine) :
    (s.checked excluded).toList = s.staying (excluded.map Machine.identity) := by
  refine List.filter_congr fun m _ => ?_
  rw [Members.has, Bool.eq_iff_iff, Bool.not_eq_true', ← Bool.not_eq_true, Keyed.contains_ofList]
  simp

/-! ## The verdict -/

/-- What a check says and reports: members that leave are named and nothing is
reported; otherwise members that ail are listed and reported once; otherwise
the check is passed. -/
structure Judgement (s : Scope) (backoff : Backoff) (excluded : List Identity)
    (verdict : Preflight) (events : List Event) : Prop where
  waiting_iff : ∀ names ms, verdict = .waitingForDeletion names ms ↔
    s.leavers excluded ≠ [] ∧ names = (s.leavers excluded).map Machine.name ∧
      ms = backoff.deletion
  unhealthy_iff : ∀ first others ms, verdict = .unhealthy first others ms ↔
    s.leavers excluded = [] ∧ first :: others = (s.ailing excluded).map Machine.healthFault ∧
      ms = backoff.unhealthy
  passed_iff : verdict = .passed ↔ s.leavers excluded = [] ∧ s.ailing excluded = []
  silent : s.leavers excluded ≠ [] ∨ s.ailing excluded = [] → events = []
  warned : ∀ first others, s.leavers excluded = [] →
    (s.ailing excluded).map Machine.healthFault = first :: others →
    events = [⟨true, Event.controlPlaneUnhealthy, Event.checking,
      some ("Waiting for control plane to pass preflight checks to continue reconciliation: " ++
        Preflight.faultText first others), s.subject⟩]

theorem preflight_judged (s : Scope) (backoff : Backoff) (excluded : List Machine) :
    s.Judgement backoff (excluded.map Machine.identity) (s.preflight backoff excluded)
      ((s.preflight backoff excluded).report? s.subject).toList := by
  have hleavers : (s.checked excluded).deleting.toList =
      s.leavers (excluded.map Machine.identity) :=
    congrArg (List.filter Machine.isDeleting) (s.toList_checked excluded)
  have hfaults : Preflight.faults (s.checked excluded).toList =
      (s.ailing (excluded.map Machine.identity)).map Machine.healthFault := by
    rw [Preflight.faults_eq, toList_checked, ailing]
  rw [preflight_eq, Keyed.isEmpty, Members.names, hleavers, hfaults]
  generalize excluded.map Machine.identity = ids
  cases hl : s.leavers ids with
  | cons m rest =>
    exact {
      waiting_iff := by simp [eq_comm, hl]
      unhealthy_iff := by simp [hl]
      passed_iff := by simp [hl]
      silent := fun _ => rfl
      warned := by simp [hl] }
  | nil =>
    cases ha : s.ailing ids with
    | nil =>
      exact {
        waiting_iff := by simp [hl]
        unhealthy_iff := by simp [ha]
        passed_iff := by simp [hl, ha]
        silent := fun _ => rfl
        warned := by simp [ha] }
    | cons m rest =>
      exact {
        waiting_iff := by simp [hl]
        unhealthy_iff := by simp [hl, ha, eq_comm, and_assoc]
        passed_iff := by simp [ha]
        silent := by simp [hl, ha]
        warned := by
          intro first others _ hfirst
          rw [ha] at hfirst
          obtain ⟨rfl, rfl⟩ := List.cons.inj hfirst
          rfl }

/-! ## The check -/

theorem check_eq (s : Scope) (backoff : Backoff) (excluded : List Machine) (j : Journal σ) :
    s.check backoff excluded j = (.ok (s.preflight backoff excluded),
      { j with
        events := j.events ++ ((s.preflight backoff excluded).report? s.subject).toList }) := by
  unfold check
  cases (s.preflight backoff excluded).report? s.subject with
  | none =>
    rw [Option.toList_none, List.append_nil]
    rfl
  | some event => rfl

/-- A check answers by the members it looks at. -/
theorem check_congr (hchecked : t.checked others = s.checked excluded)
    (hsubject : t.subject = s.subject) : t.check backoff others j = s.check backoff excluded j := by
  rw [check_eq, check_eq, preflight_eq, preflight_eq, hchecked, hsubject]

theorem checked_congr
    (h : ∀ i, i ∈ others.map Machine.identity ↔ i ∈ excluded.map Machine.identity) :
    s.checked others = s.checked excluded := by
  apply Keyed.ext
  rw [toList_checked, toList_checked, staying, staying]
  simp only [h]

/-- Whatever takes the place of an excluded member is not looked at. -/
theorem checked_insert {m : Machine} (h : m.identity ∈ excluded.map Machine.identity) :
    checked { s with members := s.members.insert m } excluded = s.checked excluded := by
  refine Keyed.filter_insert_of_excluded fun b hb => ?_
  have hhas : Members.has (.ofList excluded) b = true := by
    rw [Members.has, Keyed.contains_ofList, hb]
    exact List.mem_map.mp h
  rw [hhas]
  rfl

/-- The check says what is true of the members that are not excluded.  It knows
the excluded machines by their identities only; excluding more of them keeps
a pass, and whatever takes the place of one makes no difference. -/
theorem check_judged (s : Scope) (backoff : Backoff) (excluded : List Machine) (j : Journal σ) :
    (∃ verdict events,
      s.check backoff excluded j = (.ok verdict, { j with events := j.events ++ events }) ∧
        s.Judgement backoff (excluded.map Machine.identity) verdict events) ∧
    (∀ others, (∀ i, i ∈ others.map Machine.identity ↔ i ∈ excluded.map Machine.identity) →
      s.check backoff others j = s.check backoff excluded j) ∧
    (∀ more, excluded.map Machine.identity ⊆ more.map Machine.identity →
      (s.check backoff excluded j).1 = .ok .passed → (s.check backoff more j).1 = .ok .passed) ∧
    ∀ m, m.identity ∈ excluded.map Machine.identity →
      check { s with members := s.members.insert m } backoff excluded j =
        s.check backoff excluded j := by
  refine ⟨⟨_, _, s.check_eq backoff excluded j, s.preflight_judged backoff excluded⟩,
    fun others h => check_congr (checked_congr h) rfl, fun more hsub hpassed => ?_,
    fun m h => check_congr (checked_insert h) rfl⟩
  rw [check_eq] at hpassed ⊢
  have hsteady := preflight_eq_passed_iff.mp (Except.ok.inj hpassed)
  refine congrArg Except.ok (preflight_eq_passed_iff.mpr fun m hm hnot => ?_)
  refine hsteady m hm fun e he hsame => ?_
  obtain ⟨x, hx, hid⟩ := List.mem_map.mp (hsub (List.mem_map_of_mem he))
  exact hnot x hx (hid.trans hsame)

end Scope

/-- A healthy machine. -/
def Sample.steadyMachine (name : String) : Machine :=
  machine ⟨epoch, 0⟩ (controlPlane "cp" 2) name (some "az-1") ⟨epoch, 0⟩

/-- A control plane with a healthy member and one whose health is not known. -/
def Sample.halfSteady : Scope :=
  ⟨controlPlane "cp" 2, cluster clusterName ["az-1"],
    .ofList [steadyMachine "cp-a", withConditions (steadyMachine "cp-b") []]⟩

/-- With the unhealthy member excluded, once or twice, the check is passed; so it
is with the other one excluded as well, and when the member recovers. -/
theorem Scope.check_judged_halfSteady (backoff : Backoff) :
    let s := Sample.halfSteady
    let a := Sample.steadyMachine "cp-a"
    let b := Sample.steadyMachine "cp-b"
    let j : Journal Unit := ⟨(), []⟩
    (s.check backoff [b] j).1 = .ok .passed ∧ (s.check backoff [b, a] j).1 = .ok .passed ∧
      s.check backoff [b, b] j = s.check backoff [b] j ∧
      check { s with members := s.members.insert b } backoff [b] j = s.check backoff [b] j := by
  intro s a b j
  have hsteady : ∀ m ∈ s.members.toList, (∀ e ∈ [b], e.identity ≠ m.identity) →
      m.isSteady = true := by decide +kernel
  have hpassed : (s.check backoff [b] j).1 = .ok .passed := by
    rw [check_eq, preflight_eq_passed_iff.mpr hsteady]
  obtain ⟨-, hsame, hmore, hreplaced⟩ := check_judged s backoff [b] j
  exact ⟨hpassed, hmore [b, a] (by simp) hpassed, hsame [b, b] (by simp), hreplaced b (by simp)⟩

end Roster
