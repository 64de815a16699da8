/-
Roster.Proofs.Quiescence — writing the status comes to rest.

A status that is shown is computed again at any later time, the times of its
conditions included (`Scope.status_withStatus`): `Condition.set` keeps the
time of a condition that stays as it is, and both conditions differ by the
time only.  So a control plane that shows its status is settled, and no pass
over a settled control plane asks to write a status.

A `Review` is a pass whose store keeps track of the statuses that it is asked
to write (`Tracked`).  What was written last is what the next review finds
(`Reviews`).  Along such a row either writing keeps failing, or the first
review that looks at the members leaves the control plane settled.
-/
import Roster.Proofs.Conditions
import Roster.Proofs.Listed
import Roster.Proofs.Upkeep
import Roster.Sample

namespace Roster

/-! ## A status that stays -/

namespace Scope

variable {s : Scope} {now later : Instant}

theorem availability_later (now later : Instant) (ready : Bool) :
    availability later ready = { availability now ready with since := some later } := by
  cases ready <;> rfl

theorem convergence_later (now later : Instant) (actual desired : Int32) :
    convergence later actual desired =
      { convergence now actual desired with since := some later } := by
  unfold convergence
  dsimp only
  split
  · rfl
  · split <;> rfl

/-- The two conditions of a status, set once more at another time, stay. -/
theorem set_conditions_later (now later : Instant) (ready : Bool) (actual desired : Int32)
    (previous : List Condition) :
    let conditions := Condition.set (convergence now actual desired)
      (Condition.set (availability now ready) previous)
    Condition.set (convergence later actual desired)
      (Condition.set (availability later ready) conditions) = conditions := by
  intro conditions
  have havailable : Condition.set (availability later ready) conditions = conditions := by
    -- The convergence was set after it, under another type.
    have hne : (convergence now actual desired).type ≠ (availability now ready).type := by
      rw [convergence_type, availability_type]
      decide
    obtain ⟨since, hfound⟩ := Condition.find?_set_self (availability now ready) previous
    rw [← Condition.find?_set_of_ne hne] at hfound
    rw [availability_later now later]
    exact Condition.set_eq_self hfound
  obtain ⟨since, hfound⟩ := Condition.find?_set_self (convergence now actual desired)
    (Condition.set (availability now ready) previous)
  rw [havailable, convergence_later now later]
  exact Condition.set_eq_self hfound

/-- A status that is shown is the status at any later time. -/
theorem status_withStatus (s : Scope) (now later : Instant) :
    (s.withStatus (some (s.status now))).status later = s.status now := by
  have hinitialized : ((s.status now).initialized || (s.status now).ready) =
      (s.status now).initialized := by
    unfold status
    dsimp only
    rw [Bool.or_assoc, Bool.or_self]
  have hconditions : Condition.set
      (convergence later (s.status now).replicas (replicaCount s.desired))
      (Condition.set (availability later (s.status now).ready) (s.status now).conditions) =
        (s.status now).conditions :=
    set_conditions_later now later _ _ _ _
  calc (s.withStatus (some (s.status now))).status later
      = { s.status now with
          initialized := (s.status now).initialized || (s.status now).ready
          conditions := Condition.set
            (convergence later (s.status now).replicas (replicaCount s.desired))
            (Condition.set (availability later (s.status now).ready)
              (s.status now).conditions) } := rfl
    _ = s.status now := by rw [hinitialized, hconditions]

end Scope

/-- A control plane with these members shows its status, whatever the time. -/
def ControlPlane.IsSettled (p : ControlPlane) (members : Members) : Prop :=
  ∀ cluster now, p.status = some (Scope.status ⟨p, cluster, members⟩ now)

namespace Scope

variable {s : Scope} {now : Instant}

theorem isSettled_withStatus (s : Scope) (now : Instant) :
    (s.withStatus (some (s.status now))).controlPlane.IsSettled s.members := by
  intro cluster later
  exact congrArg some (s.status_withStatus now later).symm

theorem isSettled_of_shown (h : s.controlPlane.status = some (s.status now)) :
    s.controlPlane.IsSettled s.members := by
  have hsame : s.withStatus (some (s.status now)) = s := by
    rw [← h]
    rfl
  exact hsame ▸ s.isSettled_withStatus now

end Scope

/-! ## Keeping track of the status -/

variable {σ α : Type}

/-- A store with the statuses that it was asked to write, and those of them that
it did write. -/
structure Tracked (σ : Type) where
  store : σ
  asked : List ControlPlaneStatus
  written : List ControlPlaneStatus

namespace Tracked

/-- An operation that leaves the status alone. -/
def untouched (op : Call σ α) : Call (Tracked σ) α := fun t =>
  ((op t.store).1, { t with store := (op t.store).2 })

/-- An operation that is to write a status. -/
def writing (status : ControlPlaneStatus) (op : Call σ Unit) : Call (Tracked σ) Unit := fun t =>
  match op t.store with
  | (.ok (), store) => (.ok (), ⟨store, t.asked ++ [status], t.written ++ [status]⟩)
  | (.error e, store) => (.error e, ⟨store, t.asked ++ [status], t.written⟩)

end Tracked

/-- The operations of a store that keeps track of the status. -/
def Store.tracked (inner : Store σ) : Store (Tracked σ) where
  listMachines ns cluster := Tracked.untouched (inner.listMachines ns cluster)
  listMachinesUncached ns cluster := Tracked.untouched (inner.listMachinesUncached ns cluster)
  getMachine ns name := Tracked.untouched (inner.getMachine ns name)
  getCluster ns name := Tracked.untouched (inner.getCluster ns name)
  getObject r := Tracked.untouched (inner.getObject r)
  createObject o := Tracked.untouched (inner.createObject o)
  createBootstrapConfig c := Tracked.untouched (inner.createBootstrapConfig c)
  createMachine m := Tracked.untouched (inner.createMachine m)
  delete r := Tracked.untouched (inner.delete r)
  patchStatus p status := Tracked.writing status (inner.patchStatus p status)

/-- A setting with a store that keeps track of the status. -/
def Setting.tracked (setting : Setting σ) : Setting (Tracked σ) :=
  ⟨setting.store.tracked, setting.backoff, setting.draws⟩

theorem Store.tracked_mirrors (inner : Store σ) : Mirrors Tracked.store inner.tracked inner where
  listMachines _ _ _ := rfl
  listMachinesUncached _ _ _ := rfl
  getMachine _ _ _ := rfl
  getCluster _ _ _ := rfl
  getObject _ _ := rfl
  createObject _ _ := rfl
  createBootstrapConfig _ _ := rfl
  createMachine _ _ := rfl
  delete _ _ := rfl
  patchStatus p status t := by
    show inner.patchStatus p status t.store = _
    unfold tracked Tracked.writing
    dsimp only
    rcases inner.patchStatus p status t.store with ⟨e | _, store⟩ <;> rfl

/-- A pass does not notice that track is kept of the status. -/
theorem reconcile_tracked (setting : Setting σ) (now : Instant) (p : ControlPlane)
    (j : Journal (Tracked σ)) :
    reconcile setting now p (j.map Tracked.store) =
      ((reconcile setting.tracked now p j).1,
        (reconcile setting.tracked now p j).2.map Tracked.store) :=
  reconcile_mirrors setting.store.tracked_mirrors now p j

/-! ## What a pass asks to write -/

namespace Tracked

variable {store : Store σ} {setting : Setting σ} {asked written : List ControlPlaneStatus}
  {s : Scope} {j : Journal (Tracked σ)}

theorem untouched_keeps (op : Call σ α) :
    KeepsCall (fun t => t.asked = asked ∧ t.written = written) (untouched op) := fun _ h => h

/-- Only writing the status leaves a track. -/
theorem mute_keeps : store.tracked.mute.Keeps fun t => t.asked = asked ∧ t.written = written where
  listMachines _ _ := untouched_keeps _
  listMachinesUncached _ _ := untouched_keeps _
  getMachine _ _ := untouched_keeps _
  getCluster _ _ := untouched_keeps _
  getObject _ := untouched_keeps _
  createObject _ := untouched_keeps _
  createBootstrapConfig _ := untouched_keeps _
  createMachine _ := untouched_keeps _
  delete _ := untouched_keeps _
  patchStatus _ _ _ h := h

theorem survey_track (p : ControlPlane) (h : j.store.asked = asked ∧ j.store.written = written) :
    (survey store.tracked p j).2.store.asked = asked ∧
      (survey store.tracked p j).2.store.written = written :=
  survey_keeps mute_keeps p h

theorem step_track (h : j.store.asked = asked ∧ j.store.written = written) :
    (do
      let outcome ← s.step setting.tracked
      return outcome.action setting.tracked.backoff : Pass (Tracked σ) Action).Ensures j
        (fun _ j' => j'.store.asked = asked ∧ j'.store.written = written)
        fun _ j' => j'.store.asked = asked ∧ j'.store.written = written := by
  rw [Pass.ensures_bind]
  exact (Pass.ensures_iff_end fun _ (j' : Journal (Tracked σ)) => j'.store.asked = asked ∧
    j'.store.written = written).mpr (step_keeps mute_keeps _ _ s h)

theorem writing_track {status : ControlPlaneStatus} {op : Call σ Unit}
    (h : j.store.asked = [] ∧ j.store.written = []) :
    (Pass.call (writing status op)).Ensures j
      (fun _ j' => j'.store.asked = [status] ∧ j'.store.written = [status])
      fun _ j' => j'.store.asked = [status] ∧ j'.store.written = [] := by
  rw [Pass.ensures_call, writing]
  rcases op j.store.store with ⟨e | _, store⟩ <;> simp [h.1, h.2]

/-- A pass with a scope asks to write its status, unless that is shown. -/
theorem advance_track (now : Instant) (h : j.store.asked = [] ∧ j.store.written = []) :
    (s.controlPlane.status = some (s.status now) ∧
      (s.advance setting.tracked now j).2.store.asked = [] ∧
      (s.advance setting.tracked now j).2.store.written = []) ∨
    (s.controlPlane.status ≠ some (s.status now) ∧
      (s.advance setting.tracked now j).2.store.asked = [s.status now] ∧
      ((s.advance setting.tracked now j).2.store.written = [] ∨
        (s.advance setting.tracked now j).2.store.written = [s.status now])) := by
  by_cases hshown : s.controlPlane.status = some (s.status now)
  · refine .inl ⟨hshown, (Pass.ensures_iff_end fun _ (j' : Journal (Tracked σ)) =>
      j'.store.asked = [] ∧ j'.store.written = []).mp ?_⟩
    unfold Scope.advance
    dsimp only
    rw [if_neg (not_not.mpr hshown)]
    exact step_track h
  · refine .inr ⟨hshown, (Pass.ensures_iff_end fun _ (j' : Journal (Tracked σ)) =>
      j'.store.asked = [s.status now] ∧
        (j'.store.written = [] ∨ j'.store.written = [s.status now])).mp ?_⟩
    unfold Scope.advance
    dsimp only
    rw [if_pos hshown, Pass.ensures_bind]
    refine (writing_track h).mono ?_ fun _ j' hended => ⟨hended.1, .inl hended.2⟩
    rintro _ j' hwrote
    exact (step_track hwrote).mono (fun _ _ hended => ⟨hended.1, .inr hended.2⟩)
      fun _ _ hended => ⟨hended.1, .inr hended.2⟩

end Tracked

/-! ## Reviews one after the other -/

/-- A pass over a control plane, with the store it starts from. -/
structure Review (σ : Type) where
  controlPlane : ControlPlane
  now : Instant
  setting : Setting σ
  store : σ

namespace Review

variable {r : Review σ} {s : Scope}

/-- Nothing was asked yet. -/
def start (r : Review σ) : Journal (Tracked σ) := ⟨⟨r.store, [], []⟩, []⟩

/-- The store after the pass, with what it was asked to write as the status. -/
def ended (r : Review σ) : Tracked σ :=
  (reconcile r.setting.tracked r.now r.controlPlane r.start).2.store

/-- The statuses that the pass asks to write. -/
def asked (r : Review σ) : List ControlPlaneStatus := r.ended.asked

/-- The statuses that the pass writes. -/
def written (r : Review σ) : List ControlPlaneStatus := r.ended.written

/-- `s` is the scope that the pass decides on. -/
def Sees (r : Review σ) (s : Scope) : Prop := Decides r.setting.store r.controlPlane ⟨r.store, []⟩ s

/-- A review leaves the store as the pass does. -/
theorem ended_store (r : Review σ) :
    r.ended.store = (reconcile r.setting r.now r.controlPlane ⟨r.store, []⟩).2.store :=
  (congrArg (fun ended => ended.2.store)
    (reconcile_tracked r.setting r.now r.controlPlane r.start)).symm

/-- A pass over what it has seen asks to write the status, unless that is shown; a
pass that sees nothing asks for nothing. -/
theorem track (r : Review σ) :
    ((∀ s, ¬ r.Sees s) ∧ r.asked = [] ∧ r.written = []) ∨
    ∃ s, r.Sees s ∧
      ((r.controlPlane.status = some (s.status r.now) ∧ r.asked = [] ∧ r.written = []) ∨
        (r.controlPlane.status ≠ some (s.status r.now) ∧ r.asked = [s.status r.now] ∧
          (r.written = [] ∨ r.written = [s.status r.now]))) := by
  have hlooked : (survey r.setting.tracked.store r.controlPlane r.start).2.store.asked = [] ∧
      (survey r.setting.tracked.store r.controlPlane r.start).2.store.written = [] :=
    Tracked.survey_track r.controlPlane ⟨rfl, rfl⟩
  have hsees (s : Scope) :
      r.Sees s ↔ Decides r.setting.tracked.store r.controlPlane r.start s :=
    Eq.congr_left <| congrArg Prod.fst <|
      survey_mirrors r.setting.store.tracked_mirrors r.controlPlane r.start
  simp only [hsees]
  unfold asked written ended Decides
  rw [reconcile_eq, Pass.bind_apply]
  rcases hsurvey : survey r.setting.tracked.store r.controlPlane r.start with ⟨halt | found, j⟩
  all_goals rw [hsurvey] at hlooked
  · exact .inl ⟨by simp, hlooked⟩
  · cases found with
    | none => exact .inl ⟨by simp, hlooked⟩
    | some s =>
      have hs : s.controlPlane = r.controlPlane :=
        Decides.controlPlane_eq (congrArg Prod.fst hsurvey)
      refine .inr ⟨s, rfl, ?_⟩
      rw [← hs]
      exact Tracked.advance_track r.now hlooked

theorem status_eq_of_isSettled {members : Members} (h : r.controlPlane.IsSettled members)
    (hsees : r.Sees s) (hmembers : s.members = members) :
    r.controlPlane.status = some (s.status r.now) := by
  obtain ⟨p, cluster, _⟩ := s
  obtain rfl : p = r.controlPlane := hsees.controlPlane_eq
  obtain rfl := hmembers
  exact h cluster r.now

end Review

/-- The control plane with the status that was written last, if any was. -/
def ControlPlane.carrying (p : ControlPlane) (written : List ControlPlaneStatus) : ControlPlane :=
  { p with status := written.getLast?.or p.status }

/-- Passes one after the other over a control plane, which carries what was written
last.  The passes that look find the same members. -/
inductive Reviews (members : Members) : ControlPlane → List (Review σ) → Prop where
  | nil (p : ControlPlane) : Reviews members p []
  | cons {r : Review σ} {later : List (Review σ)} (sees : ∀ s, r.Sees s → s.members = members)
    (rest : Reviews members (r.controlPlane.carrying r.written) later) :
    Reviews members r.controlPlane (r :: later)

namespace Reviews

variable {members : Members} {p : ControlPlane} {reviews : List (Review σ)}

/-- Over a settled control plane no pass asks to write a status. -/
theorem quiet (h : Reviews members p reviews) (hsettled : p.IsSettled members) :
    ∀ r ∈ reviews, r.asked = [] ∧ r.written = [] := by
  induction h with
  | nil => simp
  | @cons r later sees rest ih =>
    have hquiet : r.asked = [] ∧ r.written = [] := by
      obtain ⟨-, hquiet⟩ | ⟨s, hsees, ⟨-, hquiet⟩ | ⟨hchanged, -⟩⟩ := r.track
      · exact hquiet
      · exact hquiet
      · exact absurd (Review.status_eq_of_isSettled hsettled hsees (sees s hsees)) hchanged
    rw [hquiet.2] at ih
    exact List.forall_mem_cons.mpr ⟨hquiet, ih hsettled⟩

/-- Writing the status fails until it is written, and then it stays. -/
theorem comes_to_rest (h : Reviews members p reviews) :
    (reviews.flatMap Review.written).length ≤ 1 ∧
      reviews.Pairwise fun earlier later =>
        later.asked ≠ [] → ∀ s, earlier.Sees s → earlier.asked ≠ [] ∧ earlier.written = [] := by
  induction h with
  | nil => simp
  | @cons r later sees rest ih =>
    obtain ⟨hblind, -, hwritten⟩ | ⟨s, hsees, hlooked⟩ := r.track
    · rw [List.flatMap_cons, hwritten]
      exact ⟨ih.1, List.pairwise_cons.mpr ⟨fun _ _ _ s hs => absurd hs (hblind s), ih.2⟩⟩
    have hcontrolPlane : s.controlPlane = r.controlPlane := hsees.controlPlane_eq
    have hmembers : s.members = members := sees s hsees
    -- Once the control plane is settled, the passes to come ask for nothing.
    have hrest (hsettled : (r.controlPlane.carrying r.written).IsSettled members) :
        (later.flatMap Review.written).length = 0 ∧ ∀ r' ∈ later, r'.asked = [] := by
      have hquiet := rest.quiet hsettled
      refine ⟨?_, fun r' hr' => (hquiet r' hr').1⟩
      rw [List.length_eq_zero_iff, List.flatMap_eq_nil_iff]
      exact fun r' hr' => (hquiet r' hr').2
    obtain ⟨hshown, -, hwritten⟩ | ⟨-, hasked, hwritten | hwritten⟩ := hlooked
    · have hsettled : s.controlPlane.IsSettled s.members :=
        Scope.isSettled_of_shown (hcontrolPlane ▸ hshown)
      rw [hcontrolPlane, hmembers] at hsettled
      obtain ⟨hnone, hunasked⟩ := hrest (hwritten ▸ hsettled)
      rw [List.flatMap_cons, hwritten, List.nil_append, hnone]
      exact ⟨Nat.zero_le 1, List.pairwise_cons.mpr
        ⟨fun r' hr' hasked => absurd (hunasked r' hr') hasked, ih.2⟩⟩
    · rw [List.flatMap_cons, hwritten]
      exact ⟨ih.1, List.pairwise_cons.mpr ⟨fun _ _ _ _ _ => ⟨by simp [hasked], hwritten⟩, ih.2⟩⟩
    · have hsettled := s.isSettled_withStatus r.now
      obtain ⟨hnone, hunasked⟩ := hrest (by
        rw [hwritten, ← hcontrolPlane, ← hmembers]
        exact hsettled)
      rw [List.flatMap_cons, hwritten, List.length_append, hnone]
      exact ⟨Nat.le_refl 1, List.pairwise_cons.mpr
        ⟨fun r' hr' hasked => absurd (hunasked r' hr') hasked, ih.2⟩⟩

end Reviews

/-- Shown again, a status is the same at any other time; and over a control plane
that carries what was written last, with the same members, it is written once at
most.  Another pass asks to write it only if all the passes before it that looked
at the members failed to write it. -/
theorem status_is_written_once :
    (∀ p cluster machines now later,
      (Scope.ofMachines
          { p with status := some ((Scope.ofMachines p cluster machines).status now) }
          cluster machines).status later =
        (Scope.ofMachines p cluster machines).status now) ∧
    ∀ (σ : Type) (members : Members) (p : ControlPlane) (reviews : List (Review σ)),
      Reviews members p reviews →
        (reviews.flatMap Review.written).length ≤ 1 ∧
        reviews.Pairwise fun earlier later =>
          later.asked ≠ [] → ∀ s, earlier.Sees s → earlier.asked ≠ [] ∧ earlier.written = [] :=
  ⟨fun p cluster machines => (Scope.ofMachines p cluster machines).status_withStatus,
    fun _ _ _ _ => Reviews.comes_to_rest⟩

/-- The sample control plane with a status that tells twice that it is available,
once since an hour ago and once without a time. -/
def Sample.watched : ControlPlane :=
  let since : Instant := .ofSeconds (epoch - 3600)
  { controlPlane "cp" 3 with
    status := some { ControlPlaneStatus.empty with
      conditions := [.holding since Condition.available,
        { Condition.holding since Condition.available with since := none }] } }

/-- When the condition of a type came about, as a status tells. -/
def Sample.since? (type : String) (status : ControlPlaneStatus) : Option Instant :=
  (Condition.find? type status.conditions).bind Condition.since

/-- Two reviews of members of unlike state, of which none can be removed.  The first
one writes the status, which keeps the time of the condition that held before,
and the second one, a minute later, sees the same members and asks for nothing. -/
theorem second_review_is_quiet :
    let setting : Setting Memory := ⟨Memory.store, .usual, ⟨.first, .first, .first⟩⟩
    let first : Review Memory := ⟨Sample.watched, .ofSeconds Sample.epoch, setting,
      Sample.assortment Sample.watched⟩
    let second : Review Memory := ⟨first.controlPlane.carrying first.written,
      .ofSeconds (Sample.epoch + 60), setting, first.ended.store⟩
    (∃ s, first.Sees s ∧ s.members.size = 5 ∧ ∃ s', second.Sees s' ∧ s'.members = s.members) ∧
      first.written.map (Sample.since? Condition.available) =
        [some (.ofSeconds (Sample.epoch - 3600))] ∧
      first.written.map (Sample.since? Condition.resized) = [some (.ofSeconds Sample.epoch)] ∧
      second.asked = [] := by
  intro setting first second
  let visit : Visit := ⟨first.controlPlane, first.now, .usual, ⟨.first, .first, .first⟩⟩
  have hfacts : (first.store.scope? first.controlPlane).any (·.members.size = 5) = true ∧
      (second.store.scope? second.controlPlane).isSome = true ∧
      (visit.outcome? first.store).any (fun ended => ended.toOption.any (· ≠ .soon)) = true ∧
      first.store.pinned = none := by decide +kernel
  have htimes : first.written.map (Sample.since? Condition.available) =
        [some (.ofSeconds (Sample.epoch - 3600))] ∧
      first.written.map (Sample.since? Condition.resized) =
        [some (.ofSeconds Sample.epoch)] := by decide +kernel
  obtain ⟨hsize, hagain, hwaits, hunpinned⟩ := hfacts
  obtain ⟨s, hscope, hfive⟩ := (Option.any_eq_true ..).mp hsize
  obtain ⟨s', hscope'⟩ := Option.isSome_iff_exists.mp hagain
  -- The first review has to wait, so it leaves what is stored alone but for the status.
  obtain ⟨_ | outcome, houtcome, hne⟩ := (Option.any_eq_true ..).mp hwaits
  · cases hne
  have hleft : second.store = first.store.note s first.now :=
    first.ended_store.trans
      (visit.after_of_ne_soon hscope houtcome (of_decide_eq_true hne))
  have hunpinned' : second.store.pinned = none := by rw [hleft, Memory.note_pinned, hunpinned]
  have hroster : second.store.roster Sample.watched = first.store.roster Sample.watched := by
    rw [hleft, Memory.roster, Memory.note_inventory, Memory.roster]
  have hall (x : Scope) (h : first.Sees x) : x.members = first.store.roster Sample.watched :=
    Memory.members_eq_roster (Memory.decides_iff.mp h) hunpinned ⟨rfl, rfl, rfl⟩
  have hall' (x : Scope) (h : second.Sees x) : x.members = first.store.roster Sample.watched :=
    (Memory.members_eq_roster (Memory.decides_iff.mp h) hunpinned' ⟨rfl, rfl, rfl⟩).trans hroster
  have hsees : first.Sees s := Memory.decides_iff.mpr hscope
  have hsees' : second.Sees s' := Memory.decides_iff.mpr hscope'
  have hreviews : Reviews (first.store.roster Sample.watched) first.controlPlane [first, second] :=
    .cons hall (.cons hall' (.nil _))
  obtain ⟨-, hquiet⟩ := status_is_written_once.2 Memory _ _ _ hreviews
  have hsame : s'.members = s.members := (hall' s' hsees').trans (hall s hsees).symm
  refine ⟨⟨s, hsees, of_decide_eq_true hfive, s', hsees', hsame⟩, htimes.1, htimes.2,
    by_contra fun hasked => ?_⟩
  obtain ⟨-, hnone⟩ := List.rel_of_pairwise_cons hquiet (List.mem_singleton.mpr rfl) hasked s hsees
  rw [hnone] at htimes
  cases htimes.1

end Roster
