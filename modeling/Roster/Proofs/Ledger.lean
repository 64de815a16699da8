/-
Roster.Proofs.Ledger — the entries of a run are a ledger of its members.

`Turn.Adds` and `Turn.Removes` are read off the stored machines before and
after a pass, `Scope.FailsToAdd` and `Scope.FailsToRemove` off the calls that
the step gets to make.  Each of them holds exactly when the step of the pass
does the deed in question (`Scope.StepDoes`), and every deed has one entry.  So
a pass reports each of them once, and reports none that did not happen
(`Run.keeps_ledger`).

Over a run without other changes to the machines the entries add up: what was
created and not deleted is what there is more at the end (`Run.ledger_balances`).
-/
import Roster.Proofs.Deeds
import Roster.Proofs.Membership

namespace Roster

variable {α : Type}

/-! ## What happens in a pass -/

namespace Turn

/-- The reports made for a reason. -/
def reports (t : Turn) (reason : String) : List Event := t.events.filter (·.reason == reason)

/-- The machine is stored after the pass, and none of its identity was before. -/
def Adds (t : Turn) (m : Machine) : Prop :=
  m ∈ t.after.inventory.machines.toList ∧ t.before.inventory.machines.contains m.identity = false

/-- The machine was stored before the pass, and none of its identity is after it. -/
def Removes (t : Turn) (m : Machine) : Prop :=
  m ∈ t.before.inventory.machines.toList ∧ t.after.inventory.machines.contains m.identity = false

/-- The reports for a reason tell what happens: there is the one report of it, and
none if it does not happen. -/
def Tells (t : Turn) (reason : String) (happens : α → Prop) (report : α → Event) : Prop :=
  (∀ a, happens a → t.reports reason = [report a]) ∧
    ((∀ a, ¬ happens a) → t.reports reason = [])

end Turn

namespace Scope

/-- The step of a pass gets as far as creating a member, as planned, and that
fails. -/
def FailsToAdd (s : Scope) (t : Turn) (planned : Plan) (e : Error) : Prop :=
  s.plan = planned ∧ s.Attempts t.visit.backoff (t.before.note s t.visit.now) ∧
    (s.attempt t.visit.draws (t.before.note s t.visit.now)).1 = .error (.failed e)

/-- The step of a pass gets as far as deleting the member, and that fails, and not
because it was gone already. -/
def FailsToRemove (s : Scope) (t : Turn) (m : Machine) (e : Error) : Prop :=
  s.Dismisses t.visit.backoff m ∧ (Memory.store.delete m.reference t.before).1 = .error e ∧
    e.isNotFound = false

variable {s : Scope} {backoff : Backoff} {draws : Draws} {before after : Memory}

/-! ## Deeds and the stored machines -/

theorem provisions_of_attempt {m : Machine} (h : s.attempt draws before = (.ok m, after)) :
    s.Provisions draws s.controlPlane.spec.agentConfig s.nextDomain before m after := by
  obtain ⟨hended, rfl⟩ := Prod.mk.inj h
  exact ((Pass.ensures_iff.mp (provision_ensures (j := ⟨before, []⟩))).1 m hended).1

theorem provisionFails_of_attempt {halt : Halt}
    (h : s.attempt draws before = (.error halt, after)) :
    ∃ made, s.ProvisionFails draws s.controlPlane.spec.agentConfig s.nextDomain before made halt
      after := by
  obtain ⟨hended, rfl⟩ := Prod.mk.inj h
  exact ((Pass.ensures_iff.mp (provision_ensures (j := ⟨before, []⟩))).2 halt hended).1

/-- With names that are not in use, an attempt that fails leaves the machines alone. -/
theorem machines_of_attempt_eq_error {halt : Halt}
    (hunclaimed : s.Unclaimed draws before.inventory.machines)
    (h : s.attempt draws before = (.error halt, after)) :
    after.inventory.machines = before.inventory.machines := by
  obtain ⟨made, hfails⟩ := provisionFails_of_attempt h
  -- The clean-up can take a machine only if the clone was named like it.
  cases hfails.changes with
  | stay hsame => exact hsame
  | mistaken hdecoy hstored =>
    rw [hunclaimed.contains_of_decoy hdecoy] at hstored
    cases hstored

end Scope

/-- What a deed does to the stored machines. -/
def Deed.Alters (before after : Members) : Deed → Prop
  | .added m => before.contains m.identity = false ∧ after = before.insert m
  | .removed m => before.contains m.identity = true ∧ after = before.erase m.identity
  | _ => after = before

theorem Scope.StepDoes.alters {s : Scope} {backoff : Backoff} {draws : Draws}
    {before after : Memory} {deed : Deed} (h : s.StepDoes backoff draws before after deed)
    (hunclaimed : s.Unclaimed draws before.inventory.machines) :
    deed.Alters before.inventory.machines after.inventory.machines := by
  cases h with
  | rests => rfl
  | adds _ hrun =>
    obtain ⟨hjoins, -⟩ := (provisions_of_attempt hrun).joins
    exact ⟨hunclaimed.contains_of_joins hjoins, hjoins.machines⟩
  | fails _ hrun => exact machines_of_attempt_eq_error hunclaimed hrun
  | unnamed _ hrun => exact machines_of_attempt_eq_error hunclaimed hrun
  | removes _ hanswer => exact Memory.machines_of_delete_eq_ok hanswer
  | gone => rfl
  | refused => rfl

namespace Turn

variable {t : Turn} {deed : Deed} {m : Machine}

theorem not_adds_of_subset (h : ∀ x ∈ t.after.inventory.machines.toList,
    x ∈ t.before.inventory.machines.toList) : ¬ t.Adds m := by
  rintro ⟨hm, hnew⟩
  exact Keyed.contains_eq_false_iff.mp hnew m (h m hm) rfl

theorem not_removes_of_subset (h : ∀ x ∈ t.before.inventory.machines.toList,
    x ∈ t.after.inventory.machines.toList) : ¬ t.Removes m := by
  rintro ⟨hm, hgone⟩
  exact Keyed.contains_eq_false_iff.mp hgone m (h m hm) rfl

theorem adds_iff (h : deed.Alters t.before.inventory.machines t.after.inventory.machines) :
    t.Adds m ↔ deed = .added m := by
  cases deed with
  | added m' =>
    obtain ⟨hnew, hafter⟩ := h
    rw [Adds, hafter, Keyed.mem_insert, Deed.added.injEq]
    constructor
    · rintro ⟨rfl | ⟨hm, -⟩, hnone⟩
      · rfl
      · exact absurd rfl (Keyed.contains_eq_false_iff.mp hnone m hm)
    · rintro rfl
      exact ⟨.inl rfl, hnew⟩
  | removed m' =>
    refine iff_of_false (not_adds_of_subset fun x hx => ?_) nofun
    rw [h.2] at hx
    exact (Keyed.mem_erase.mp hx).1
  | nothing => exact iff_of_false (not_adds_of_subset fun x hx => h ▸ hx) nofun
  | notAdded => exact iff_of_false (not_adds_of_subset fun x hx => h ▸ hx) nofun
  | notRemoved => exact iff_of_false (not_adds_of_subset fun x hx => h ▸ hx) nofun

/-- The machine that the watch cache showed and the stored one that is removed in its
place have one identity. -/
theorem removes_iff (h : deed.Alters t.before.inventory.machines t.after.inventory.machines) :
    t.Removes m ↔ m ∈ t.before.inventory.machines.toList ∧
      ∃ m', deed = .removed m' ∧ m'.identity = m.identity := by
  cases deed with
  | removed m' =>
    obtain ⟨-, hafter⟩ := h
    rw [Removes, hafter]
    refine and_congr_right fun hm => ⟨fun hgone => ⟨m', rfl, ?_⟩, ?_⟩
    · by_contra hne
      exact Keyed.contains_eq_false_iff.mp hgone m
        (Keyed.mem_erase.mpr ⟨hm, fun heq => hne heq.symm⟩) rfl
    · rintro ⟨_, ⟨⟩, hidentity⟩
      -- All machines of the identity are erased, the stored one among them.
      refine Keyed.contains_eq_false_iff.mpr fun x hx heq => ?_
      exact (Keyed.mem_erase.mp hx).2 (heq.trans hidentity.symm)
  | added m' =>
    refine iff_of_false (not_removes_of_subset fun x hx => ?_) (by simp)
    rw [h.2]
    exact Keyed.mem_insert.mpr (.inr ⟨hx, Keyed.contains_eq_false_iff.mp h.1 x hx⟩)
  | nothing => exact iff_of_false (not_removes_of_subset fun x hx => h.symm ▸ hx) (by simp)
  | notAdded => exact iff_of_false (not_removes_of_subset fun x hx => h.symm ▸ hx) (by simp)
  | notRemoved => exact iff_of_false (not_removes_of_subset fun x hx => h.symm ▸ hx) (by simp)

end Turn

/-! ## What fails in a pass -/

namespace Scope.StepDoes

variable {s : Scope} {backoff : Backoff} {draws : Draws} {before after : Memory} {deed : Deed}
  {m : Machine} {e : Error}

theorem notAdded_iff (h : s.StepDoes backoff draws before after deed) :
    deed = .notAdded e ↔
      s.Attempts backoff before ∧ (s.attempt draws before).1 = .error (.failed e) := by
  have hother {m : Machine} (hdismisses : s.Dismisses backoff m) : ¬ s.Attempts backoff before :=
    not_attempts_of_not_adds hdismisses.not_adds
  cases h with
  | rests hadds => exact iff_of_false nofun fun h => hadds h.1
  | adds _ hrun => simp [hrun]
  | fails hattempts hrun => simp [hrun, hattempts, eq_comm]
  | unnamed _ hrun => simp [hrun]
  | removes hdismisses => exact iff_of_false nofun fun h => hother hdismisses h.1
  | gone hdismisses => exact iff_of_false nofun fun h => hother hdismisses h.1
  | refused hdismisses => exact iff_of_false nofun fun h => hother hdismisses h.1

theorem notRemoved_iff (h : s.StepDoes backoff draws before after deed) :
    deed = .notRemoved m e ↔ s.Dismisses backoff m ∧
      (Memory.store.delete m.reference before).1 = .error e ∧ e.isNotFound = false := by
  have hother (hattempts : s.Attempts backoff before) : ¬ s.Dismisses backoff m :=
    not_dismisses_of_adds hattempts.adds m
  cases h with
  | rests _ hremoves => exact iff_of_false nofun fun h => hremoves m h.1
  | adds hattempts => exact iff_of_false nofun fun h => hother hattempts h.1
  | fails hattempts => exact iff_of_false nofun fun h => hother hattempts h.1
  | unnamed hattempts => exact iff_of_false nofun fun h => hother hattempts h.1
  | removes hdismisses hanswer =>
    refine iff_of_false nofun ?_
    rintro ⟨hdismisses', hrefused, -⟩
    rw [hdismisses'.eq hdismisses, hanswer] at hrefused
    cases hrefused
  | gone hdismisses hanswer hgone =>
    refine iff_of_false nofun ?_
    rintro ⟨hdismisses', hrefused, hfound⟩
    rw [hdismisses'.eq hdismisses, hanswer] at hrefused
    obtain rfl := Except.error.inj hrefused
    rw [hgone] at hfound
    cases hfound
  | refused hdismisses hanswer hfound =>
    constructor
    · rintro ⟨⟩
      exact ⟨hdismisses, by rw [hanswer], hfound⟩
    · rintro ⟨hdismisses', hrefused, -⟩
      obtain rfl := hdismisses'.eq hdismisses
      rw [hanswer] at hrefused
      rw [Except.error.inj hrefused]

end Scope.StepDoes

/-! ## One report for a deed -/

namespace Scope

variable {s : Scope} {deed : Deed} {event : Event}

@[simp] theorem creation_reason (m : Machine) :
    (s.creation m).reason = Event.machineCreated := by
  unfold creation
  split <;> rfl

theorem creationFailure_reason_of_found (h : s.plan = .found) (e : Error) :
    (s.creationFailure e).reason = Event.failedInitialization := by
  rw [creationFailure, if_pos h]

theorem creationFailure_reason_of_not_found (h : s.plan ≠ .found) (e : Error) :
    (s.creationFailure e).reason = Event.failedScaleUp := by
  rw [creationFailure, if_neg h]

open Event in
/-- The reason of an entry tells what was done. -/
theorem deed_of_reason (h : event ∈ s.entryOf deed) :
    (event.reason = machineCreated → ∃ m, deed = .added m) ∧
    (event.reason = machineDeleted → ∃ m, deed = .removed m) ∧
    (event.reason = failedInitialization → s.plan = .found ∧ ∃ e, deed = .notAdded e) ∧
    (event.reason = failedScaleUp → s.plan ≠ .found ∧ ∃ e, deed = .notAdded e) ∧
    (event.reason = failedScaleDown → ∃ m e, deed = .notRemoved m e) := by
  unfold machineCreated machineDeleted failedInitialization failedScaleUp failedScaleDown
  cases deed with
  | nothing => cases h
  | added m =>
    obtain rfl := Option.some.inj h
    simp [machineCreated]
  | removed m =>
    obtain rfl := Option.some.inj h
    simp [deletion, machineDeleted]
  | notRemoved m e =>
    obtain rfl := Option.some.inj h
    simp [deletionFailure, failedScaleDown]
  | notAdded e =>
    obtain rfl := Option.some.inj h
    by_cases hplan : s.plan = .found
    · simp [creationFailure_reason_of_found hplan, failedInitialization, hplan]
    · simp [creationFailure_reason_of_not_found hplan, failedScaleUp, hplan]

end Scope

namespace Turn

variable {t : Turn} {reason : String} {happens : α → Prop} {report : α → Event}
  {told : Option Event}

theorem reports_eq (h : reason ∈ Event.entryReasons) :
    t.reports reason = t.entries.filter (·.reason == reason) := by
  rw [reports, entries, List.filter_filter]
  refine List.filter_congr fun event _ => ?_
  by_cases heq : event.reason = reason <;> simp [Event.isEntry, heq, h]

/-- A pass with one entry at most tells what happens, if the entry is the report of
it. -/
theorem tells_of_entry (hentries : t.entries = told.toList)
    (hreason : reason ∈ Event.entryReasons)
    (hsome : ∀ a, happens a → told = some (report a) ∧ (report a).reason = reason)
    (hnone : ∀ event ∈ told, event.reason = reason → ∃ a, happens a) :
    t.Tells reason happens report := by
  rw [Tells, reports_eq hreason, hentries]
  constructor
  · intro a ha
    obtain ⟨rfl, hreported⟩ := hsome a ha
    simp [hreported]
  · intro hnothing
    rw [List.filter_eq_nil_iff]
    intro event hevent heq
    obtain ⟨a, ha⟩ := hnone event (Option.mem_toList.mp hevent) (by simpa using heq)
    exact hnothing a ha

end Turn

/-- A pass that decides on a scope and draws names that are not in use does one deed:
it is what the step does, what becomes of the machines, and what the entry is
about. -/
theorem Visit.turn_deed {v : Visit} {before : Memory} {s : Scope}
    (h : before.scope? v.controlPlane = some s)
    (hunclaimed : s.Unclaimed v.draws before.inventory.machines) :
    ∃ deed, s.StepDoes v.backoff v.draws (before.note s v.now) (v.turn before).after deed ∧
      (v.turn before).entries = (s.entryOf deed).toList ∧
      deed.Alters before.inventory.machines (v.turn before).after.inventory.machines := by
  obtain ⟨deed, hdoes, hentries⟩ := turn_does h
  refine ⟨deed, hdoes, hentries, ?_⟩
  simpa using hdoes.alters (by simpa using hunclaimed)

/-- The ledger of a pass with a scope: what was added, removed, and failed. -/
def Scope.KeepsLedger (s : Scope) (t : Turn) : Prop :=
  t.Tells Event.machineCreated t.Adds s.creation ∧
  t.Tells Event.machineDeleted t.Removes s.deletion ∧
  t.Tells Event.failedInitialization (s.FailsToAdd t .found) s.creationFailure ∧
  t.Tells Event.failedScaleUp (s.FailsToAdd t .grow) s.creationFailure ∧
  t.Tells Event.failedScaleDown (fun failure : Machine × Error =>
    s.FailsToRemove t failure.1 failure.2) fun failure => s.deletionFailure failure.1 failure.2

/-- A pass that decides on a scope and draws names that are not in use keeps the
ledger. -/
theorem Visit.turn_keepsLedger {v : Visit} {before : Memory} {s : Scope}
    (h : before.scope? v.controlPlane = some s)
    (hunclaimed : s.Unclaimed v.draws before.inventory.machines) :
    s.KeepsLedger (v.turn before) := by
  obtain ⟨deed, hdoes, hentries, halters⟩ := turn_deed h hunclaimed
  have hadded (planned : Plan) (e : Error) : s.FailsToAdd (v.turn before) planned e ↔
      s.plan = planned ∧ deed = .notAdded e := and_congr_right' hdoes.notAdded_iff.symm
  have hremoved (m : Machine) (e : Error) : s.FailsToRemove (v.turn before) m e ↔
      deed = .notRemoved m e := by
    rw [hdoes.notRemoved_iff, Memory.delete_note]
    rfl
  have hreason (event : Event) (hevent : event ∈ s.entryOf deed) := Scope.deed_of_reason hevent
  refine ⟨?created, ?deleted, ?initialization, ?scaleUp, ?scaleDown⟩
  case created =>
    refine Turn.tells_of_entry hentries (by decide) (fun m hadds => ?_) fun event hevent heq => ?_
    · rw [(Turn.adds_iff halters).mp hadds]
      exact ⟨rfl, s.creation_reason m⟩
    · obtain ⟨hadds, -⟩ := hreason event hevent
      obtain ⟨m, rfl⟩ := hadds heq
      exact ⟨m, (Turn.adds_iff halters).mpr rfl⟩
  case deleted =>
    refine Turn.tells_of_entry hentries (by decide) (fun m hremoves => ?_)
      fun event hevent heq => ?_
    · obtain ⟨-, m', rfl, hidentity⟩ := (Turn.removes_iff halters).mp hremoves
      have hname : m'.name = m.name := congrArg Identity.name hidentity
      refine ⟨?_, rfl⟩
      rw [Scope.entryOf, Scope.deletion, Scope.deletion, hname]
    · obtain ⟨-, hremoves, -⟩ := hreason event hevent
      obtain ⟨m', rfl⟩ := hremoves heq
      obtain ⟨m, hm, hidentity⟩ := Keyed.contains_iff.mp halters.1
      exact ⟨m, (Turn.removes_iff halters).mpr ⟨hm, m', rfl, hidentity.symm⟩⟩
  case initialization =>
    refine Turn.tells_of_entry hentries (by decide) (fun e hfails => ?_) fun event hevent heq => ?_
    · obtain ⟨hplan, rfl⟩ := (hadded .found e).mp hfails
      exact ⟨rfl, Scope.creationFailure_reason_of_found hplan e⟩
    · obtain ⟨-, -, hfails, -⟩ := hreason event hevent
      obtain ⟨hplan, e, rfl⟩ := hfails heq
      exact ⟨e, (hadded .found e).mpr ⟨hplan, rfl⟩⟩
  case scaleUp =>
    refine Turn.tells_of_entry hentries (by decide) (fun e hfails => ?_) fun event hevent heq => ?_
    · obtain ⟨hplan, rfl⟩ := (hadded .grow e).mp hfails
      exact ⟨rfl, Scope.creationFailure_reason_of_not_found (by simp [hplan]) e⟩
    · obtain ⟨-, -, -, hfails, -⟩ := hreason event hevent
      obtain ⟨hnot, e, rfl⟩ := hfails heq
      -- Attempts are made at the first member and at further ones.
      obtain ⟨hfound, -⟩ | ⟨hgrow, -⟩ := (hdoes.notAdded_iff.mp rfl).1
      · exact absurd hfound hnot
      · exact ⟨e, (hadded .grow e).mpr ⟨hgrow, rfl⟩⟩
  case scaleDown =>
    refine Turn.tells_of_entry hentries (by decide) (fun failure hfails => ?_)
      fun event hevent heq => ?_
    · rw [(hremoved failure.1 failure.2).mp hfails]
      exact ⟨rfl, rfl⟩
    · obtain ⟨-, -, -, -, hfails⟩ := hreason event hevent
      obtain ⟨m, e, rfl⟩ := hfails heq
      exact ⟨⟨m, e⟩, (hremoved m e).mpr rfl⟩

/-- The entries of a pass make up for what there is more or less after it. -/
theorem Visit.turn_balances (v : Visit) (before : Memory)
    (hunclaimed : ∀ s ∈ before.scope? v.controlPlane,
      s.Unclaimed v.draws before.inventory.machines) :
    (v.turn before).after.inventory.machines.size +
        ((v.turn before).reports Event.machineDeleted).length =
      before.inventory.machines.size + ((v.turn before).reports Event.machineCreated).length := by
  cases hscope : before.scope? v.controlPlane with
  | none =>
    have hnone : (v.turn before).entries = [] := entries_of_scope?_eq_none hscope
    have hsame : (v.turn before).after = before := (turn_of_scope?_eq_none hscope).2
    rw [hsame, Turn.reports_eq (by decide), Turn.reports_eq (by decide), hnone]
    rfl
  | some s =>
    obtain ⟨deed, -, -, halters⟩ := turn_deed hscope (hunclaimed s hscope)
    obtain ⟨⟨hcreated, hnoneCreated⟩, ⟨hdeleted, hnoneDeleted⟩, -⟩ :=
      turn_keepsLedger hscope (hunclaimed s hscope)
    cases deed with
    | added m =>
      rw [hcreated m ((Turn.adds_iff halters).mpr rfl),
        hnoneDeleted fun x hx => by simpa using (Turn.removes_iff halters).mp hx,
        halters.2, Keyed.size_insert, if_neg (by simp [halters.1])]
      rfl
    | removed m =>
      obtain ⟨x, hx, hidentity⟩ := Keyed.contains_iff.mp halters.1
      rw [hdeleted x ((Turn.removes_iff halters).mpr ⟨hx, m, rfl, hidentity.symm⟩),
        hnoneCreated fun y hy => by simpa using (Turn.adds_iff halters).mp hy,
        halters.2, ← hidentity]
      exact Keyed.size_erase hx
    | _ =>
      have hsame : (v.turn before).after.inventory.machines = before.inventory.machines := halters
      rw [hnoneCreated fun y hy => by simpa using (Turn.adds_iff halters).mp hy,
        hnoneDeleted fun x hx => by simpa using (Turn.removes_iff halters).mp hx, hsame]

namespace Run

variable {between : Memory → Memory → Prop} {start final : Memory} {turns : List Turn}

/-- Over any run in which the drawn names are not in use the reports are a ledger of
the members.  A pass that adds a machine reports once that it was created, and no
other pass does; likewise for removing one.  A pass reports once that the first
member, another member or a deletion failed, exactly when that is what happened.
A pass that decides on nothing reports none of these and changes no machine. -/
theorem keeps_ledger (h : Run between start turns final)
    (hunclaimed : ∀ turn ∈ turns, ∀ s ∈ turn.scope?,
      s.Unclaimed turn.visit.draws turn.before.inventory.machines) :
    ∀ turn ∈ turns,
      match turn.scope? with
      | some s => s.KeepsLedger turn
      | none => (∀ reason ∈ Event.entryReasons, turn.reports reason = []) ∧
          turn.after.inventory.machines = turn.before.inventory.machines := by
  intro turn hmem
  have hnames := hunclaimed turn hmem
  obtain ⟨v, store, rfl⟩ := h.exists_eq_turn turn hmem
  cases hscope : (v.turn store).scope? with
  | some s => exact Visit.turn_keepsLedger hscope (hnames s hscope)
  | none =>
    have hnone : (v.turn store).entries = [] := Visit.entries_of_scope?_eq_none hscope
    have hsame : (v.turn store).after = store := (Visit.turn_of_scope?_eq_none hscope).2
    refine ⟨fun reason hreason => ?_, congrArg (fun after => after.inventory.machines) hsame⟩
    rw [Turn.reports_eq hreason, hnone, List.filter_nil]

end Run

/-- Three passes of the sample control plane: it grows, fails to grow, and is to have
no member at all. -/
theorem three_passes_keep_ledger :
    let grows := Sample.growth.turn Sample.small
    let fails := Sample.growth.turn { Sample.small with faults := [.createMachine] }
    let shrinks := Visit.turn { Sample.growth with controlPlane := Sample.controlPlane "cp" 0 }
      Sample.small
    (∃ (s : Scope) (m : Machine), grows.Adds m ∧
        grows.reports Event.machineCreated = [s.creation m]) ∧
      (∃ (s : Scope) (e : Error), s.FailsToAdd fails .grow e ∧
        fails.reports Event.failedScaleUp = [s.creationFailure e]) ∧
      ∃ (s : Scope) (m : Machine), shrinks.Removes m ∧
        shrinks.reports Event.machineDeleted = [s.deletion m] := by
  intro grows fails shrinks
  have hrun : Run (fun _ _ => True) Sample.small [grows, fails, shrinks] shrinks.after :=
    .cons trivial (.cons trivial (.cons trivial (.nil _)))
  have hunclaimed : ∀ turn ∈ [grows, fails, shrinks], ∀ s ∈ turn.scope?,
      s.Unclaimed turn.visit.draws turn.before.inventory.machines := by
    simp only [List.forall_mem_cons, List.not_mem_nil, false_implies, implies_true, and_true]
    exact ⟨by decide +kernel, by decide +kernel, by decide +kernel⟩
  have hseen : grows.scope?.isSome = true ∧ fails.scope?.isSome = true ∧
      shrinks.scope?.isSome = true ∧ (fails.reports Event.failedScaleUp).length = 1 ∧
      grows.after.inventory.machines.toList.any
        (fun m => !grows.before.inventory.machines.contains m.identity) = true ∧
      shrinks.before.inventory.machines.toList.any
        (fun m => !shrinks.after.inventory.machines.contains m.identity) = true := by
    decide +kernel
  obtain ⟨hgrows, hfails, hshrinks, hreported, hadds, hremoves⟩ := hseen
  have hledger {turn : Turn} (hmem : turn ∈ [grows, fails, shrinks])
      (hsome : turn.scope?.isSome = true) : ∃ s : Scope, s.KeepsLedger turn := by
    have hturn := hrun.keeps_ledger hunclaimed turn hmem
    obtain ⟨s, hscope⟩ := Option.isSome_iff_exists.mp hsome
    rw [hscope] at hturn
    exact ⟨s, hturn⟩
  refine ⟨?_, ?_, ?_⟩
  · obtain ⟨s, ⟨hcreated, -⟩, -⟩ := hledger (by simp) hgrows
    obtain ⟨m, hm, hnew⟩ := List.any_eq_true.mp hadds
    have hadded : grows.Adds m := ⟨hm, by simpa using hnew⟩
    exact ⟨s, m, hadded, hcreated m hadded⟩
  · obtain ⟨s, -, -, -, ⟨hfailed, hnone⟩, -⟩ := hledger (by simp) hfails
    obtain ⟨e, he⟩ : ∃ e, s.FailsToAdd fails .grow e := by
      by_contra hnothing
      rw [hnone (not_exists.mp hnothing)] at hreported
      cases hreported
    exact ⟨s, e, he, hfailed e he⟩
  · obtain ⟨s, -, ⟨hdeleted, -⟩, -⟩ := hledger (by simp) hshrinks
    obtain ⟨m, hm, hgone⟩ := List.any_eq_true.mp hremoves
    have hremoved : shrinks.Removes m := ⟨hm, by simpa using hgone⟩
    exact ⟨s, m, hremoved, hdeleted m hremoved⟩

/-! ## The balance of a run -/

namespace Run

variable {between : Memory → Memory → Prop} {start final : Memory} {turns : List Turn}

/-- Over a run in which only the passes change the machines, the entries add up: what
was created and not deleted is what there is more at the end. -/
theorem ledger_balances (h : Run between start turns final)
    (hwait : ∀ s s', between s s' → s'.inventory.machines = s.inventory.machines)
    (hunclaimed : ∀ turn ∈ turns, ∀ s ∈ turn.scope?,
      s.Unclaimed turn.visit.draws turn.before.inventory.machines) :
    final.inventory.machines.size + (turns.flatMap (·.reports Event.machineDeleted)).length =
      start.inventory.machines.size + (turns.flatMap (·.reports Event.machineCreated)).length := by
  induction h with
  | nil => rfl
  | @cons start before final v turns wait rest ih =>
    obtain ⟨hnames, hlater⟩ := List.forall_mem_cons.mp hunclaimed
    have hturn := v.turn_balances before hnames
    have hrest := ih hlater
    rw [hwait _ _ wait] at hturn
    rw [List.flatMap_cons, List.flatMap_cons, List.length_append, List.length_append]
    omega

end Run

end Roster
