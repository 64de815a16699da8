/-
Roster.Proofs.Failures — which failures are for good.

A failed pass is tried again unless its error cannot pass by itself.  Errors
reach the end of a pass in context and in number, but they are retryable
exactly when all their causes are (`Error.isRetryable_iff`), so it is enough
to know the causes.

`Scope.Blames` says what a step that fails has to report: a call that was
refused, or something that is missing, and these may pass; that the cluster
was founded already; or that the template is none.  `Visit.turn_failure`: a
failure is for good in the last two cases only, and everything else is tried
again after the time set for failures.
-/
import Roster.Proofs.Classification
import Roster.Proofs.Endings
import Roster.Proofs.Founding

namespace Roster

/-! ## What may pass -/

namespace Error

/-- Whether an error says that a call was refused, that an object is missing, or
that something could not be made: that may be different the next time. -/
def isPassing : Error → Bool
  | .api _ => true
  | .notFound _ _ => true
  | .internal _ _ => true
  | _ => false

/-- All causes of an error may pass. -/
def Passes (e : Error) : Prop := ∀ c ∈ e.causes, c.isPassing = true

variable {e : Error}

theorem passes_of_isPassing (h : e.isPassing = true) : e.Passes := by
  have hcause : e.isCause = true := by
    cases e with
    | wrapped | aggregate => cases h
    | _ => rfl
  rw [Passes, causes_of_isCause hcause]
  exact List.forall_mem_singleton.mpr h

theorem Passes.wrap (h : e.Passes) (message : String) : (e.wrap message).Passes := h

theorem Passes.aggregate {es : List Error} (h : e.Passes) (hes : ∀ x ∈ es, x.Passes) :
    (Error.aggregate e es).Passes := by
  have hall : ∀ c ∈ allCauses es, c.isPassing = true := by
    induction es with
    | nil => simp [allCauses]
    | cons x rest ih =>
      obtain ⟨hx, hrest⟩ := List.forall_mem_cons.mp hes
      rw [allCauses, List.forall_mem_append]
      exact ⟨hx, ih hrest⟩
  rw [Passes, causes, List.forall_mem_append]
  exact ⟨h, hall⟩

theorem Passes.isRetryable (h : e.Passes) : e.isRetryable = true := by
  refine e.isRetryable_iff.mpr fun c hc => ?_
  have hpasses := h c hc
  cases c with
  | api | notFound | internal => rfl
  | _ => cases hpasses

end Error

/-! ## Failing calls -/

namespace Memory

variable {s s' : Memory} {r : Reference} {e : Error}

theorem faultError_passes (s : Memory) (f : Fault) : (s.faultError f).Passes := by
  refine Error.passes_of_isPassing ?_
  unfold faultError
  cases s.apiCode <;> rfl

theorem delete_passes (h : store.delete r s = (.error e, s')) : e.Passes := by
  have hfault (f : Fault) {e : Error} (h : s.fault? f = some e) : e.Passes := by
    rw [fault?_eq] at h
    split at h
    · exact Option.some.inj h ▸ s.faultError_passes f
    · cases h
  change delete r s = _ at h
  unfold delete at h
  split at h
  next e' hrefused =>
    obtain rfl := Except.error.inj (congrArg Prod.fst h)
    obtain hname | ⟨-, hany⟩ := Option.or_eq_some_iff.mp hrefused
    · exact hfault _ hname
    · exact hfault _ hany
  next =>
    split at h
    · obtain rfl := Except.error.inj (congrArg Prod.fst h)
      exact Error.passes_of_isPassing rfl
    · cases h

theorem clear_passes (refs : List Reference) (s : Memory) :
    ∀ e ∈ (store.clear refs s).1, e.Passes := by
  induction refs generalizing s with
  | nil => simp [Store.clear]
  | cons r rest ih =>
    rw [Store.clear]
    refine List.forall_mem_append.mpr ⟨fun e he => ?_, ih _⟩
    replace he : e ∈ (cleanupFailure? (store.delete r s).1).toList := he
    rcases hanswer : store.delete r s with ⟨e' | _, s'⟩ <;> rw [hanswer] at he
    · rw [cleanupFailure?] at he
      split at he
      · cases he
      · obtain rfl := List.mem_singleton.mp he
        exact (delete_passes hanswer).wrap _
    · cases he

end Memory

theorem cleanupErrors_passes {failures : List Error} (h : ∀ e ∈ failures, e.Passes) :
    ∀ e ∈ cleanupErrors failures, e.Passes := by
  cases failures with
  | nil => simp [cleanupErrors, Error.ofList?]
  | cons e rest =>
    obtain ⟨he, hrest⟩ := List.forall_mem_cons.mp h
    intro x hx
    obtain rfl := List.mem_singleton.mp hx
    exact (he.aggregate hrest).wrap _

/-! ## Failing steps -/

namespace Scope

variable {s : Scope} {backoff : Backoff} {draws : Draws} {before after : Memory} {e : Error}

/-- There are no members to be seen but should be some, and the source answers
with machines that the control plane owns. -/
def AlreadyFounded (s : Scope) (store : Memory) : Prop :=
  s.members.size = 0 ∧ 0 < s.desired ∧ .listUncached ∉ store.faults ∧
    ∃ m ∈ store.inventory.machines.toList, s.owns m = true

/-- What the control plane names as its template is there and is none. -/
def TemplateBroken (s : Scope) (store : Memory) : Prop :=
  ∃ template, store.inventory.objects.lookup s.templateRef.key = some template ∧
    ¬ IsTemplate s.templateRef template

/-- What a step reports that fails. -/
inductive Blames (s : Scope) (backoff : Backoff) (store : Memory) : Error → Prop where
  /-- All that went wrong may be different the next time. -/
  | passing {e : Error} (hpasses : e.Passes) (hfounded : ¬ s.AlreadyFounded store)
      (htemplate : ¬ (s.Attempts backoff store ∧ s.TemplateBroken store)) :
    Blames s backoff store e
  /-- There are members that are not seen. -/
  | founded {n : Nat} (hfounded : s.AlreadyFounded store) :
    Blames s backoff store (s.foundedAlready n)
  /-- The template is none. -/
  | template {resource message : String} {field : Option String}
      (hattempts : s.Attempts backoff store) (hbroken : s.TemplateBroken store) :
    Blames s backoff store ((Error.validation resource message field).wrap
      "failed to clone infrastructure template")

theorem Blames.isRetryable_eq_false_iff (h : s.Blames backoff before e) :
    e.isRetryable = false ↔
      s.AlreadyFounded before ∨ s.Attempts backoff before ∧ s.TemplateBroken before := by
  cases h with
  | passing hpasses hfounded htemplate => simp [hpasses.isRetryable, hfounded, htemplate]
  | founded hfounded => exact iff_of_true rfl (.inl hfounded)
  | template hattempts hbroken => exact iff_of_true rfl (.inr ⟨hattempts, hbroken⟩)

/-- What is reported comes from calls, from something that is missing, from a
template, or from members that are not seen. -/
theorem Blames.causes (h : s.Blames backoff before e) :
    ∀ cause ∈ e.causes, cause.isPassing = true ∨
      (∃ resource message field, cause = .validation resource message field) ∨
      ∃ message, cause = .invariant "initialize" message := by
  cases h with
  | passing hpasses => exact fun cause hcause => .inl (hpasses cause hcause)
  | founded => exact List.forall_mem_singleton.mpr (.inr (.inr ⟨_, rfl⟩))
  | template => exact List.forall_mem_singleton.mpr (.inr (.inl ⟨_, _, _, rfl⟩))

/-- A step that gets as far as creating a member has not found the cluster
founded. -/
theorem Attempts.not_alreadyFounded (h : s.Attempts backoff before) :
    ¬ s.AlreadyFounded before := by
  rintro ⟨hzero, hpos, -, m, hm, howned⟩
  obtain ⟨-, -, hforeign⟩ | ⟨hplan, -⟩ := h
  · rw [hforeign m hm] at howned
    cases howned
  · have hcalled := s.callsFor_plan
    rw [hplan] at hcalled
    have := hcalled.1
    omega

theorem not_templateBroken {template : Unstructured}
    (hstored : before.inventory.objects.lookup s.templateRef.key = some template)
    (htemplate : IsTemplate s.templateRef template) : ¬ s.TemplateBroken before := by
  rintro ⟨_, hstored', hbroken⟩
  obtain rfl := Option.some.inj (hstored.symm.trans hstored')
  exact hbroken htemplate

theorem Clones.not_templateBroken {suffix : Suffix} {r : Reference} {o : Unstructured}
    (h : s.Clones suffix before r o) : ¬ s.TemplateBroken before := by
  obtain ⟨_, _, hstored, hclone, -⟩ := h.blueprint
  exact Scope.not_templateBroken hstored (isTemplate_of_infrastructureClone hclone)

/-- A step whose attempt fails reports that the template is none, or what may
pass. -/
theorem ProvisionFails.blames {made : List Item} {agentConfig : AgentConfig}
    {failureDomain : Option String}
    (h : s.ProvisionFails draws agentConfig failureDomain before made (.failed e) after)
    (hattempts : s.Attempts backoff before) : s.Blames backoff before e := by
  have hpassing {e : Error} (hpasses : e.Passes) (hsound : ¬ s.TemplateBroken before) :
      s.Blames backoff before e :=
    .passing hpasses hattempts.not_alreadyFounded fun hbroken => hsound hbroken.2
  generalize hended : Halt.failed e = halt at h
  cases h with
  | clone hfails =>
    -- Only here may the template be at fault: whatever fails later was made from it.
    cases hfails with
    | noTemplate hnone =>
      cases hended
      refine hpassing (Error.passes_of_isPassing rfl |>.wrap _) ?_
      rintro ⟨_, hstored, -⟩
      rw [hnone] at hstored
      cases hstored
    | noBlueprint hstored hclone =>
      obtain ⟨hbroken, _, _, rfl⟩ | ⟨htemplate, rfl | ⟨_, rfl⟩⟩ :=
        infrastructureClone_eq_error hclone
      · cases hended
        exact .template hattempts ⟨_, hstored, hbroken⟩
      · cases hended
      · cases hended
        exact hpassing (Error.passes_of_isPassing rfl |>.wrap _)
          (not_templateBroken hstored htemplate)
    | refused _ hstored hclone =>
      cases hended
      exact hpassing ((before.faultError_passes _).wrap _)
        (not_templateBroken hstored (isTemplate_of_infrastructureClone hclone))
  | settings hclone =>
    cases hended
    have hcause : (settingsError before).Passes := before.faultError_passes _
    exact hpassing (hcause.aggregate (cleanupErrors_passes (Memory.clear_passes _ _)))
      hclone.not_templateBroken
  | machine hclone =>
    cases hended
    have hcause : (machineError before).Passes := before.faultError_passes _
    exact hpassing (hcause.aggregate (cleanupErrors_passes (Memory.clear_passes _ _)))
      hclone.not_templateBroken
  | settingsUnnamed => cases hended
  | machineUnnamed => cases hended

theorem StepEnds.blames (h : s.StepEnds backoff draws before (.error (.failed e)) after) :
    s.Blames backoff before e := by
  cases h with
  | fails hattempts hfails => exact hfails.blames hattempts
  | unasked hplan hfault =>
    refine .passing (before.faultError_passes _) (fun hfounded => hfounded.2.2.1 hfault) ?_
    -- A first member is not attempted without the answer that did not come.
    rintro ⟨⟨-, hallowed, -⟩ | ⟨hgrow, -⟩, -⟩
    · exact hallowed hfault
    · rw [hplan] at hgrow
      cases hgrow
  | founded hplan hpos hcount hallowed =>
    have hcalled := s.callsFor_plan
    rw [hplan] at hcalled
    obtain ⟨m, hm⟩ := List.length_pos_iff_exists_mem.mp (hcount ▸ hpos)
    obtain ⟨hm, howned⟩ := List.mem_filter.mp hm
    exact .founded ⟨hcalled.1, hcalled.2, hallowed, m, hm, howned⟩
  | refused hsize hselect hanswer hfound =>
    refine .passing ((Memory.delete_passes hanswer).wrap _) (fun hfounded => ?_) fun hbroken => ?_
    · have := hfounded.1
      omega
    · have := (room_of_adds hbroken.1.adds).1
      omega

end Scope

/-! ## Failing passes -/

namespace Visit

variable {v : Visit} {before : Memory} {e : Error}

/-- What a pass cannot get over by being made again: the cluster was founded
already, or the template of a member to be created is none. -/
def IsStuck (v : Visit) (before : Memory) : Prop :=
  ∃ s, before.scope? v.controlPlane = some s ∧
    (s.AlreadyFounded before ∨ s.Attempts v.backoff before ∧ s.TemplateBroken before)

theorem isStuck_iff {s : Scope} (h : before.scope? v.controlPlane = some s) :
    v.IsStuck before ↔
      s.AlreadyFounded before ∨ s.Attempts v.backoff before ∧ s.TemplateBroken before := by
  simp [IsStuck, h]

/-- A pass that fails does so for good exactly when it is stuck; then the cluster
has members that are not seen, or a template is none.  Every other failed pass is
made again after the time set for failures.  No failure comes from the choice of
the member to remove, nor from something that could not be written or read. -/
theorem turn_failure (h : (v.turn before).result = .error (.failed e)) :
    (e.isRetryable = false ↔ v.IsStuck before) ∧
    (¬ v.IsStuck before → e.action v.backoff = .requeue v.backoff.failure) ∧
    ∀ cause ∈ e.causes, (∀ message kind, cause ≠ .serialization message kind) ∧
      ∀ message, cause ≠ .invariant "scale-down" message := by
  cases hscope : before.scope? v.controlPlane with
  | none =>
    rw [(turn_of_scope?_eq_none hscope).1] at h
    cases h
  | some s =>
    obtain ⟨ended, -, hresult, hends⟩ := turn_ends hscope
    -- The pass adds nothing to how its step ends but what is to be done next.
    have hfailed : ended = .error (.failed e) := by
      rw [hresult] at h
      cases ended with
      | ok outcome => cases h
      | error halt => exact congrArg Except.error (Except.error.inj h)
    subst hfailed
    have hblames := hends.blames
    have hstuck : e.isRetryable = false ↔ v.IsStuck before := by
      rw [hblames.isRetryable_eq_false_iff, isStuck_iff hscope]
      simp [Scope.AlreadyFounded, Scope.Attempts, Scope.TemplateBroken]
    refine ⟨hstuck, fun hnot => ?_, fun cause hcause => ?_⟩
    · rw [← hstuck, Bool.not_eq_false] at hnot
      rw [Error.action, if_pos hnot]
    · obtain hpassing | ⟨_, _, _, rfl⟩ | ⟨_, rfl⟩ := hblames.causes cause hcause
      · constructor
        · rintro message kind rfl
          cases hpassing
        · rintro message rfl
          cases hpassing
      · simp
      · simp

end Visit

/-- A store with nothing but the cluster and the template, which throttles the
creation of machines and all deletions. -/
@[irreducible]
def Sample.throttled : Memory :=
  { memory ["az-1"] with faults := [.createMachine, .deleteAny], apiCode := some 429 }

/-- The first member cannot be created, and what was created for it cannot be
deleted either.  The pass fails with all three failures, and is made again. -/
theorem throttled_cleanup_is_retried :
    ∃ e, (Sample.visit.turn Sample.throttled).result = .error (.failed e) ∧
      e.causes.length = 3 ∧ ¬ Sample.visit.IsStuck Sample.throttled ∧
      e.action Backoff.usual = .requeue Backoff.usual.failure := by
  have hfacts : (Pass.failure? (Sample.visit.turn Sample.throttled).result).any
      (fun e => e.isRetryable && e.causes.length == 3) = true := by decide +kernel
  obtain ⟨e, hfailure, he⟩ := (Option.any_eq_true ..).mp hfacts
  have hfailed := Pass.failure?_eq_some_iff.mp hfailure
  obtain ⟨hretryable, hcauses⟩ := Bool.and_eq_true_iff.mp he
  obtain ⟨hstuck, hretried, -⟩ := Visit.turn_failure hfailed
  have hnot : ¬ Sample.visit.IsStuck Sample.throttled := by simp [← hstuck, hretryable]
  exact ⟨e, hfailed, by simpa using hcauses, hnot, hretried hnot⟩

end Roster
