/-
Roster.Proofs.Deeds — what a step does, and the entry it makes about it.

`Scope.StepDoes` lists what a step can do to a store in memory: add a member
or fail to, remove one or fail to, or nothing of the kind.  Of the reports of
a step some are entries, about what was done; the others tell what is about to
be done, or why nothing is.  `step_does`: a step makes the one entry about
what it does, or none when it does nothing.

Creating a member neither reports anything nor looks at what was reported
(`Pass.Silent`), so how it ends is a function of the store (`Scope.attempt`).
-/
import Roster.Proofs.Endings

namespace Roster

variable {σ α β : Type}

/-! ## Passes without reports -/

/-- A pass that makes no reports and does not look at those made before. -/
def Pass.Silent (p : Pass σ α) : Prop := ∀ store events,
  p ⟨store, events⟩ = ((p ⟨store, []⟩).1, ⟨(p ⟨store, []⟩).2.store, events⟩)

section Formers

open Pass

theorem silent_pure (a : α) : Silent (pure a : Pass σ α) := fun _ _ => rfl

theorem silent_fail (e : Error) : Silent (Pass.fail e : Pass σ α) := fun _ _ => rfl

theorem silent_decided (d : Except Halt α) : Silent (Pass.decided d : Pass σ α) := by
  intro store events
  cases d <;> rfl

theorem silent_call (op : Call σ α) : Silent (Pass.call op) := by
  intro store events
  unfold Pass.call
  dsimp only
  rcases op store with ⟨e | a, after⟩ <;> rfl

theorem silent_attempt {p : Pass σ α} (h : p.Silent) : p.attempt.Silent := by
  intro store events
  unfold Pass.attempt
  rw [h store events]
  rcases p ⟨store, []⟩ with ⟨(e | _) | a, j⟩ <;> rfl

theorem silent_inContext {p : Pass σ α} {message : String} (h : p.Silent) :
    (p.inContext message).Silent := by
  intro store events
  unfold Pass.inContext
  rw [h store events]
  rcases p ⟨store, []⟩ with ⟨(e | _) | a, j⟩ <;> rfl

theorem silent_bind {p : Pass σ β} {f : β → Pass σ α} (h : p.Silent) (hf : ∀ b, (f b).Silent) :
    (p >>= f).Silent := by
  intro store events
  have hnone : (p ⟨store, []⟩).2.events = [] := congrArg (fun r => r.2.events) (h store [])
  -- Started without reports the first part ends without any, and so the second starts.
  rw [Pass.bind_apply, Pass.bind_apply, h store events]
  rcases hrun : p ⟨store, []⟩ with ⟨halt | b, after, reported⟩
  · rfl
  · obtain rfl : reported = [] := by
      rw [hrun] at hnone
      exact hnone
    exact hf b after events

end Formers

namespace Scope

variable {s : Scope} {store : Store σ}

theorem silent_removeEach (refs : List Reference) : (removeEach store refs).Silent := by
  induction refs with
  | nil => exact silent_pure _
  | cons r rest ih =>
    refine silent_bind (silent_attempt (silent_call _)) fun deleted => ?_
    refine silent_bind ih fun failures => ?_
    cases deleted with
    | ok _ => exact silent_pure _
    | error e =>
      dsimp only
      split <;> exact silent_pure _

theorem silent_rollBack (refs : List Reference) (cause : Error) :
    (rollBack store refs cause).Silent := by
  have hall : (removeAll store refs).Silent := by
    refine silent_bind (silent_removeEach refs) fun failures => ?_
    cases Error.ofList? failures with
    | none => exact silent_pure _
    | some e => exact silent_fail e
  refine silent_bind (silent_attempt hall) fun ended => ?_
  cases ended <;> exact silent_fail _

theorem silent_cloneInfrastructure (suffix : Suffix) :
    (s.cloneInfrastructure store suffix).Silent := by
  rw [cloneInfrastructure_eq]
  refine silent_bind (silent_call _) fun template => ?_
  refine silent_bind (silent_decided _) fun clone => ?_
  refine silent_bind (silent_call _) fun created => ?_
  cases created.reference? with
  | none => exact silent_fail _
  | some r => exact silent_pure r

theorem silent_provision (draws : Draws) (agentConfig : AgentConfig)
    (failureDomain : Option String) :
    (s.provision store draws agentConfig failureDomain).Silent := by
  refine silent_bind (silent_inContext (silent_cloneInfrastructure _)) fun infrastructure => ?_
  have hsettings : (s.createBootstrapConfig store draws.bootstrap agentConfig).Silent :=
    silent_bind (silent_decided _) fun _ =>
      silent_bind (silent_inContext (silent_call _)) fun _ => silent_pure _
  refine silent_bind (silent_attempt hsettings) fun settled => ?_
  rcases settled with e | bootstrap
  · exact silent_rollBack _ _
  have hmachine :
      (s.createMachine store draws.machine infrastructure bootstrap failureDomain).Silent :=
    silent_bind (silent_decided _) fun _ => silent_inContext (silent_call _)
  refine silent_bind (silent_attempt hmachine) fun enrolled => ?_
  rcases enrolled with e | m
  · exact silent_rollBack _ _
  · exact silent_pure m

/-- How the creation of a member ends that finds the store `before`, and the store it
leaves. -/
def attempt (s : Scope) (draws : Draws) (before : Memory) : Except Halt Machine × Memory :=
  let (ended, j) := s.provision Memory.store draws s.controlPlane.spec.agentConfig s.nextDomain
    ⟨before, []⟩
  (ended, j.store)

/-- What was reported before does not matter for the creation of a member. -/
theorem provision_eq_attempt (draws : Draws) (j : Journal Memory) :
    s.provision Memory.store draws s.controlPlane.spec.agentConfig s.nextDomain j =
      ((s.attempt draws j.store).1, ⟨(s.attempt draws j.store).2, j.events⟩) :=
  silent_provision draws _ _ j.store j.events

end Scope

/-! ## Entries -/

/-- What a step did to the members, or failed to do. -/
inductive Deed where
  | nothing
  | added (m : Machine)
  | notAdded (e : Error)
  | removed (m : Machine)
  | notRemoved (m : Machine) (e : Error)

/-- The reasons of reports about what was done. -/
def Event.entryReasons : List String :=
  [machineCreated, machineDeleted, failedInitialization, failedScaleUp, failedScaleDown]

/-- Whether a report is about what was done. -/
def Event.isEntry (event : Event) : Bool := event.reason ∈ entryReasons

/-- The entries among the reports made so far. -/
def Journal.entries (j : Journal σ) : List Event := j.events.filter Event.isEntry

namespace Scope

variable {s : Scope} {m : Machine} {e : Error} {backoff : Backoff} {draws : Draws}

/-- The report that a member was created. -/
def creation (s : Scope) (m : Machine) : Event :=
  if s.plan = .found then
    ⟨false, Event.machineCreated, Event.initializing,
      some ("Created initial control plane Machine " ++ m.name), s.subject⟩
  else
    ⟨false, Event.machineCreated, Event.scaling,
      some ("Created control plane Machine " ++ m.name), s.subject⟩

/-- The report that a member could not be created. -/
def creationFailure (s : Scope) (e : Error) : Event :=
  if s.plan = .found then
    ⟨true, Event.failedInitialization, Event.initializing,
      some ("Failed to create initial control plane Machine" ++ " for cluster " ++
        s.clusterText ++ " control plane: " ++ e.message), s.subject⟩
  else
    ⟨true, Event.failedScaleUp, Event.scaling,
      some ("Failed to create additional control plane Machine" ++ " for cluster " ++
        s.clusterText ++ " control plane: " ++ e.message), s.subject⟩

/-- The report that a member was deleted. -/
def deletion (s : Scope) (m : Machine) : Event :=
  ⟨false, Event.machineDeleted, Event.scaling, some ("Deleted control plane Machine " ++ m.name),
    s.subject⟩

/-- The report that a member could not be deleted. -/
def deletionFailure (s : Scope) (m : Machine) (e : Error) : Event :=
  ⟨true, Event.failedScaleDown, Event.scaling,
    some ("Failed to delete control plane Machine " ++ m.name ++ " for cluster " ++
      s.clusterText ++ " control plane: " ++ e.message), s.subject⟩

/-- The entry about what was done. -/
def entryOf (s : Scope) : Deed → Option Event
  | .nothing => none
  | .added m => some (s.creation m)
  | .notAdded e => some (s.creationFailure e)
  | .removed m => some (s.deletion m)
  | .notRemoved m e => some (s.deletionFailure m e)

/-- The step gets as far as deleting the member `m`: it is the one selected, and the
others pass the check. -/
structure Dismisses (s : Scope) (backoff : Backoff) (m : Machine) : Prop where
  plan : ∃ rollout, s.plan = .shrink rollout
  selected : s.select s.outdated = .ok m
  passed : s.preflight backoff [m] = .passed

/-- What a step does that finds the store `before`, and the store it leaves. -/
inductive StepDoes (s : Scope) (backoff : Backoff) (draws : Draws) (before : Memory) :
    Memory → Deed → Prop where
  /-- It does not get as far as creating or deleting a member. -/
  | rests (hadds : ¬ s.Attempts backoff before) (hremoves : ∀ m, ¬ s.Dismisses backoff m) :
    StepDoes s backoff draws before before .nothing
  | adds {m : Machine} {after : Memory} (hattempts : s.Attempts backoff before)
      (h : s.attempt draws before = (.ok m, after)) :
    StepDoes s backoff draws before after (.added m)
  | fails {e : Error} {after : Memory} (hattempts : s.Attempts backoff before)
      (h : s.attempt draws before = (.error (.failed e), after)) :
    StepDoes s backoff draws before after (.notAdded e)
  /-- There was no name for one of the objects of a member. -/
  | unnamed {after : Memory} (hattempts : s.Attempts backoff before)
      (h : s.attempt draws before = (.error .aborted, after)) :
    StepDoes s backoff draws before after .nothing
  | removes {m : Machine} {after : Memory} (hdismisses : s.Dismisses backoff m)
      (h : Memory.store.delete m.reference before = (.ok (), after)) :
    StepDoes s backoff draws before after (.removed m)
  /-- The member was gone already, or is said to be. -/
  | gone {m : Machine} {e : Error} (hdismisses : s.Dismisses backoff m)
      (h : Memory.store.delete m.reference before = (.error e, before))
      (hgone : e.isNotFound = true) :
    StepDoes s backoff draws before before .nothing
  | refused {m : Machine} {e : Error} (hdismisses : s.Dismisses backoff m)
      (h : Memory.store.delete m.reference before = (.error e, before))
      (hfound : e.isNotFound = false) :
    StepDoes s backoff draws before before (.notRemoved m e)

section Attempts

variable {before : Memory}

theorem attempts_iff_of_found (hplan : s.plan = .found) :
    s.Attempts backoff before ↔ .listUncached ∉ before.faults ∧
      ∀ m ∈ before.inventory.machines.toList, s.owns m = false := by
  simp [Attempts, hplan]

theorem attempts_iff_of_grow (hplan : s.plan = .grow) :
    s.Attempts backoff before ↔ s.preflight backoff [] = .passed := by
  simp [Attempts, hplan]

theorem not_attempts_of_not_adds (h : s.plan.adds = false) : ¬ s.Attempts backoff before := by
  intro hattempts
  rw [hattempts.adds] at h
  cases h

end Attempts

theorem Dismisses.not_adds (h : s.Dismisses backoff m) : s.plan.adds = false := by
  obtain ⟨rollout, hplan⟩ := h.plan
  rw [hplan]
  rfl

theorem not_dismisses_of_adds (h : s.plan.adds = true) (m : Machine) :
    ¬ s.Dismisses backoff m := by
  intro hdismisses
  rw [hdismisses.not_adds] at h
  cases h

theorem Dismisses.eq {m' : Machine} (h : s.Dismisses backoff m) (h' : s.Dismisses backoff m') :
    m = m' :=
  Except.ok.inj (h.selected.symm.trans h'.selected)

/-! ## Steps and their entries -/

section Journal

variable {j : Journal σ}

theorem entries_noted_of_mem {warning : Bool} {reason action note : String}
    (h : reason ∈ Event.entryReasons) :
    (s.noted j warning reason action note).entries =
      j.entries ++ [⟨warning, reason, action, some note, s.subject⟩] := by
  simp [Journal.entries, noted, Event.isEntry, h]

theorem entries_noted_of_not_mem {warning : Bool} {reason action note : String}
    (h : reason ∉ Event.entryReasons) :
    (s.noted j warning reason action note).entries = j.entries := by
  simp [Journal.entries, noted, Event.isEntry, h]

theorem entries_checkNoted {excluded : List Machine} :
    (s.checkNoted backoff excluded j).entries = j.entries := by
  have hother : Event.controlPlaneUnhealthy ∉ Event.entryReasons := by decide
  unfold checkNoted Journal.entries
  cases s.preflight backoff excluded with
  | unhealthy first others wait => simp [Preflight.report?, Event.isEntry, hother]
  | _ => simp [Preflight.report?]

theorem entries_growNoted : (s.growNoted j).entries = j.entries :=
  entries_noted_of_not_mem (by decide)

theorem entries_shrinkNoted : (s.shrinkNoted m j).entries = j.entries :=
  entries_noted_of_not_mem (by decide)

end Journal

/-- From `j` to `j'` something was done, and the one entry about it was made. -/
def Does (s : Scope) (backoff : Backoff) (draws : Draws) (j j' : Journal Memory) : Prop :=
  ∃ deed, s.StepDoes backoff draws j.store j'.store deed ∧
    j'.entries = j.entries ++ (s.entryOf deed).toList

variable {j : Journal Memory}

/-- Creating a member, with the texts that go with what is planned. -/
theorem addMember_does {action created failedReason failed : String}
    (hattempts : s.Attempts backoff j.store) (hreason : failedReason ∈ Event.entryReasons)
    (hcreation : ∀ m, s.creation m =
      ⟨false, Event.machineCreated, action, some (created ++ m.name), s.subject⟩)
    (hfailure : ∀ e, s.creationFailure e = ⟨true, failedReason, action,
      some (failed ++ " for cluster " ++ s.clusterText ++ " control plane: " ++ e.message),
      s.subject⟩) :
    (s.addMember ⟨Memory.store, backoff, draws⟩ action created failedReason failed).Ensures j
      (fun _ j' => s.Does backoff draws j j') fun _ j' => s.Does backoff draws j j' := by
  rw [addMember_ensures, Pass.Ensures, provision_eq_attempt]
  rcases hrun : s.attempt draws j.store with ⟨(e | _) | m, after⟩
  · refine ⟨_, .fails hattempts hrun, ?_⟩
    rw [entries_noted_of_mem hreason, entryOf, hfailure]
    rfl
  · exact ⟨_, .unnamed hattempts hrun, (List.append_nil _).symm⟩
  · refine ⟨_, .adds hattempts hrun, ?_⟩
    rw [entries_noted_of_mem (by decide), entryOf, hcreation]
    rfl

theorem Does.of_noted {j₀ j' : Journal Memory} (hstore : j₀.store = j.store)
    (hentries : j₀.entries = j.entries) (h : s.Does backoff draws j₀ j') :
    s.Does backoff draws j j' := by
  obtain ⟨deed, hdoes, hentry⟩ := h
  exact ⟨deed, hstore ▸ hdoes, hentries ▸ hentry⟩

theorem Does.of_rests {j' : Journal Memory} (hadds : ¬ s.Attempts backoff j.store)
    (hremoves : ∀ m, ¬ s.Dismisses backoff m) (hstore : j'.store = j.store)
    (hentries : j'.entries = j.entries) : s.Does backoff draws j j' := by
  refine ⟨.nothing, ?_, hentries.trans (List.append_nil _).symm⟩
  rw [hstore]
  exact .rests hadds hremoves

theorem found_does (hplan : s.plan = .found) :
    (s.found ⟨Memory.store, backoff, draws⟩).Ensures j
      (fun _ j' => s.Does backoff draws j j') fun _ j' => s.Does backoff draws j j' := by
  have hadds : s.plan.adds = true := by rw [hplan]; rfl
  have hrests (h : ¬ s.Attempts backoff j.store) : s.Does backoff draws j j :=
    .of_rests h (not_dismisses_of_adds hadds) rfl rfl
  rw [found_ensures]
  split
  next hfault =>
    refine hrests ?_
    rw [attempts_iff_of_found hplan]
    exact fun h => h.1 hfault
  next hallowed =>
    split
    next hpos =>
      refine hrests ?_
      rw [attempts_iff_of_found hplan]
      rintro ⟨-, hforeign⟩
      obtain ⟨m, hm⟩ := List.length_pos_iff_exists_mem.mp hpos
      obtain ⟨hm, howns⟩ := List.mem_filter.mp hm
      rw [hforeign m hm] at howns
      cases howns
    next hnone =>
      have hforeign : ∀ m ∈ j.store.inventory.machines.toList, s.owns m = false := by
        simpa using hnone
      exact addMember_does (.inl ⟨hplan, hallowed, hforeign⟩) (by decide)
        (fun m => if_pos hplan) fun e => if_pos hplan

theorem grow_does (hplan : s.plan = .grow) :
    (s.grow ⟨Memory.store, backoff, draws⟩).Ensures j
      (fun _ j' => s.Does backoff draws j j') fun _ j' => s.Does backoff draws j j' := by
  have hadds : s.plan.adds = true := by rw [hplan]; rfl
  have hnot : s.plan ≠ .found := by rw [hplan]; simp
  rw [grow_ensures]
  split
  next wait hblocked =>
    refine .of_rests ?_ (not_dismisses_of_adds hadds) checkNoted_store entries_checkNoted
    rw [attempts_iff_of_grow hplan]
    intro hpassed
    rw [hpassed] at hblocked
    cases hblocked
  next hclear =>
    have hpassed : s.preflight backoff [] = .passed := Preflight.blocking_eq_none_iff.mp hclear
    -- That the control plane is about to grow is announced, which is not an entry.
    have hnoted {j' : Journal Memory}
        (h : s.Does backoff draws (s.growNoted (s.checkNoted backoff [] j)) j') :
        s.Does backoff draws j j' :=
      Does.of_noted (growNoted_store.trans checkNoted_store)
        (entries_growNoted.trans entries_checkNoted) h
    refine Pass.Ensures.mono (addMember_does ?_ (by decide) (fun m => if_neg hnot)
      fun e => if_neg hnot) (fun _ _ => hnoted) fun _ _ => hnoted
    exact .inr ⟨hplan, hpassed⟩

theorem shrink_does {rollout : Bool} (hplan : s.plan = .shrink rollout) :
    (s.shrink ⟨Memory.store, backoff, draws⟩ s.outdated).Ensures j
      (fun _ j' => s.Does backoff draws j j') fun _ j' => s.Does backoff draws j j' := by
  have hnot : ¬ s.Attempts backoff j.store := not_attempts_of_not_adds (by rw [hplan]; rfl)
  rw [shrink_ensures]
  split
  next e hselect =>
    refine .of_rests hnot (fun m hdismisses => ?_) rfl rfl
    rw [hdismisses.selected] at hselect
    cases hselect
  next m hselect =>
    split
    next wait hblocked =>
      refine .of_rests hnot (fun m' hdismisses => ?_) checkNoted_store entries_checkNoted
      obtain rfl : m' = m := Except.ok.inj (hdismisses.selected.symm.trans hselect)
      rw [hdismisses.passed] at hblocked
      cases hblocked
    next hclear =>
      have hdismisses : s.Dismisses backoff m :=
        ⟨⟨rollout, hplan⟩, hselect, Preflight.blocking_eq_none_iff.mp hclear⟩
      have hentries : (s.shrinkNoted m (s.checkNoted backoff [m] j)).entries = j.entries :=
        entries_shrinkNoted.trans entries_checkNoted
      rw [Pass.ensures_call]
      simp only [shrinkNoted_store, checkNoted_store]
      rcases hanswer : Memory.store.delete m.reference j.store with ⟨e | _, after⟩
      · obtain rfl := Memory.eq_of_delete_eq_error hanswer
        dsimp only
        split
        -- Nobody is told of a member that was gone already.
        next hgone =>
          exact ⟨_, .gone hdismisses hanswer hgone, hentries.trans (List.append_nil _).symm⟩
        next hfound =>
          refine ⟨_, .refused hdismisses hanswer (by simpa using hfound), ?_⟩
          rw [entries_noted_of_mem (by decide)]
          exact congrArg (· ++ _) hentries
      · refine ⟨_, .removes hdismisses hanswer, ?_⟩
        rw [entries_noted_of_mem (by decide)]
        exact congrArg (· ++ _) hentries

/-- A step makes the one entry about what it does. -/
theorem step_does (s : Scope) (backoff : Backoff) (draws : Draws) (j : Journal Memory) :
    s.Does backoff draws j (s.step ⟨Memory.store, backoff, draws⟩ j).2 := by
  refine (Pass.ensures_iff_end fun _ j' => s.Does backoff draws j j').mp ?_
  have hcalled := s.callsFor_plan
  unfold step
  cases hplan : s.plan with
  | found => exact found_does hplan
  | grow => exact grow_does hplan
  | shrink rollout =>
    rw [hplan] at hcalled
    obtain ⟨-, rfl⟩ := hcalled
    dsimp only
    rw [outdated_eq]
    exact shrink_does hplan
  | stable =>
    have hadds : s.plan.adds = false := by rw [hplan]; rfl
    refine .of_rests (not_attempts_of_not_adds hadds) (fun m hdismisses => ?_) rfl rfl
    obtain ⟨rollout, hshrink⟩ := hdismisses.plan
    rw [hplan] at hshrink
    cases hshrink

end Scope

/-! ## A whole pass -/

/-- The entries that the pass made. -/
def Turn.entries (t : Turn) : List Event := t.events.filter Event.isEntry

namespace Visit

variable {v : Visit} {before : Memory} {s : Scope}

/-- What is wrong with a specification is not an entry. -/
theorem entries_of_scope?_eq_none (h : before.scope? v.controlPlane = none) :
    (v.turn before).entries = [] := by
  have hevents : (v.turn before).events = v.controlPlane.objections :=
    congrArg (fun ended => ended.2.events) (pass_of_scope?_eq_none h)
  have hother : Event.validationFailed ∉ Event.entryReasons := by decide
  rw [Turn.entries, hevents, ControlPlane.objections]
  split
  · rfl
  · cases v.controlPlane.spec.fault? v.controlPlane.displayName with
    | none => rfl
    | some e => simp [Event.isEntry, ControlPlane.faultReport, hother]

/-- A pass that decides on a scope makes the one entry about what its step does. -/
theorem turn_does (h : before.scope? v.controlPlane = some s) :
    ∃ deed, s.StepDoes v.backoff v.draws (before.note s v.now) (v.turn before).after deed ∧
      (v.turn before).entries = (s.entryOf deed).toList := by
  obtain ⟨deed, hdoes, hentries⟩ := s.step_does v.backoff v.draws ⟨before.note s v.now, []⟩
  refine ⟨deed, ?_, ?_⟩
  · rw [(turn_of_scope? h).2]
    exact hdoes
  · have hevents : (v.turn before).events = (s.step v.setting ⟨before.note s v.now, []⟩).2.events :=
      congrArg (fun ended => ended.2.events) (pass_of_scope? h)
    rw [Turn.entries, hevents]
    exact hentries

end Visit

end Roster
