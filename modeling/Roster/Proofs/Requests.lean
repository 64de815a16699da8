/-
Roster.Proofs.Requests — what a pass asks for, up to its step.

Before its step a pass only looks, and writes the status: its requests are
quiet.  So a rule about what passes ask for has to be checked for the step
alone, with the scope that the pass decided on (`isQuiet_or_follows`).

The one deletion of a step that removes a member is the same for all rules
(`asks_shrink`): it is of the member selected, after a check that was passed.
-/
import Roster.Proofs.Recorded

namespace Roster

open Recorded

variable {σ : Type} {s : Scope} {store : Store σ} {setting : Setting σ} {j : Journal (Recorded σ)}
  {may : List Reference → Request → Prop}

/-- Requests that change nothing stored but the status. -/
def Request.isQuiet : Request → Bool
  | .createObject _ => false
  | .createBootstrapConfig _ => false
  | .createMachine _ => false
  | .delete _ => false
  | _ => true

/-- The object that a request is to delete, if it is for a deletion. -/
def Request.deleted? : Request → Option Reference
  | .delete r => some r
  | _ => none

/-- Rules that no quiet request breaks. -/
def AllowsQuiet (may : List Reference → Request → Prop) : Prop :=
  ∀ made q, q.isQuiet = true → may made q

/-! ## Before the step -/

/-- Looking changes nothing, whatever the rules for changes are. -/
theorem asks_survey {p : ControlPlane} (lasting : Lasting may) (quiet : AllowsQuiet may) :
    Asks may (survey store.recorded p) j fun _ _ => True := by
  unfold survey
  split
  · exact asks_pure trivial
  split
  · exact asks_bind lasting asks_publish fun _ _ _ _ => asks_pure trivial
  split
  · exact asks_pure trivial
  refine asks_bind lasting (asks_looking fun _ => quiet _ _ rfl) fun found _ _ _ => ?_
  cases found with
  | none => exact asks_pure trivial
  | some cluster =>
    dsimp only
    split
    · exact asks_pure trivial
    · exact asks_bind lasting (asks_looking fun _ => quiet _ _ rfl)
        fun _ _ _ _ => asks_pure trivial

theorem asks_advance {now : Instant} (lasting : Lasting may) (quiet : AllowsQuiet may)
    (hstep : ∀ j, Asks may (s.step setting.recorded) j fun _ _ => True) :
    Asks may (s.advance setting.recorded now) j fun _ _ => True := by
  have hended (j : Journal (Recorded σ)) :
      Asks may (do
        let outcome ← s.step setting.recorded
        return outcome.action setting.recorded.backoff) j fun _ _ => True :=
    asks_bind lasting (hstep j) fun _ _ _ _ => asks_pure trivial
  unfold Scope.advance
  dsimp only
  split
  · exact asks_bind lasting (asks_looking fun _ => quiet _ _ rfl) fun _ _ _ _ => hended _
  · exact hended j

/-! ## Steps that check first -/

theorem asks_check {backoff : Backoff} {excluded : List Machine} (lasting : Lasting may) :
    Asks (σ := σ) may (s.check backoff excluded) j fun verdict _ =>
      verdict = s.preflight backoff excluded := by
  unfold Scope.check
  dsimp only
  split
  · exact asks_bind lasting asks_publish fun _ _ _ _ => asks_pure rfl
  · exact asks_pure rfl

/-- A step that removes a member asks for the deletion of the one it selects, if
the others pass the check. -/
theorem asks_shrink {outdated : Members} (lasting : Lasting may)
    (hdelete : ∀ m, s.select outdated = .ok m →
      (s.preflight setting.backoff [m]).blocking = none → ∀ made, may made (.delete m.reference)) :
    Asks may (s.shrink setting.recorded outdated) j fun _ _ => True := by
  unfold Scope.shrink
  split
  · exact asks_fail
  next candidate hselect =>
    refine asks_bind lasting (asks_check lasting) fun verdict _ _ hverdict => ?_
    cases hblocking : verdict.blocking with
    | some wait => exact asks_pure trivial
    | none =>
      have hclear : (s.preflight setting.backoff [candidate]).blocking = none :=
        hverdict ▸ hblocking
      refine asks_bind lasting asks_publish fun _ _ _ _ => ?_
      refine asks_bind lasting
        (asks_attempt (asks_looking (hdelete candidate hselect hclear))) ?_
      rintro (e | _) _ _ -
      · dsimp only
        split
        · exact asks_pure trivial
        · exact asks_bind lasting asks_publish fun _ _ _ _ => asks_fail
      · exact asks_bind lasting asks_publish fun _ _ _ _ => asks_pure trivial

/-! ## A whole pass -/

/-- The requests of a pass are quiet, or follow the rule for the scope it decided
on, as its step does. -/
theorem isQuiet_or_follows (rule : Scope → List Reference → Request → Prop) {now : Instant}
    {p : ControlPlane} {start : σ} {events : List Event} {q : Request}
    (lasting : ∀ s, Lasting (rule s)) (quiet : ∀ s, AllowsQuiet (rule s))
    (hstep : ∀ s, Decides setting.store.recorded p ⟨.fresh start, events⟩ s →
      ∀ j, Asks (rule s) (s.step setting.recorded) j fun _ _ => True)
    (hq : q ∈ (reconcile setting.recorded now p ⟨.fresh start, events⟩).2.store.requests) :
    q.isQuiet = true ∨ ∃ s, Decides setting.store.recorded p ⟨.fresh start, events⟩ s ∧
      rule s (reconcile setting.recorded now p ⟨.fresh start, events⟩).2.store.made q := by
  generalize hj : (⟨.fresh start, events⟩ : Journal (Recorded σ)) = j at hq hstep ⊢
  have hstart : j.store.requests = [] := by rw [← hj]; rfl
  have hlook : Asks (fun _ q => q.isQuiet = true) (survey setting.recorded.store p) j
      fun _ _ => True :=
    asks_survey (fun _ _ _ _ h => h) fun _ _ h => h
  -- Requests of a survey are quiet, those after it follow its scope.
  refine (Pass.ensures_iff_end fun _ (j' : Journal (Recorded σ)) => ∀ q ∈ j'.store.requests,
    q.isQuiet = true ∨ ∃ s, Decides setting.store.recorded p j s ∧ rule s j'.store.made q).mp
    ?_ q hq
  rw [reconcile_eq, Pass.ensures_bind]
  unfold Asks Pass.Ensures at hlook
  unfold Pass.Ensures
  rcases hsurvey : survey setting.recorded.store p j with ⟨halt | found, j₁⟩ <;>
    rw [hsurvey] at hlook
  · obtain ⟨added, hadded, hquiet⟩ := hlook.requests
    rw [hstart] at hadded
    exact fun q hq => .inl (hquiet q (by simpa [hadded] using hq))
  · obtain ⟨added, hadded, hquiet⟩ := hlook.1.requests
    rw [hstart] at hadded
    have hquiet₁ : ∀ q ∈ j₁.store.requests, q.isQuiet = true :=
      fun q hq => hquiet q (by simpa [hadded] using hq)
    cases found with
    | none => exact fun q hq => .inl (hquiet₁ q hq)
    | some s =>
      have hdecides : Decides setting.store.recorded p j s := congrArg Prod.fst hsurvey
      have hfollows (j' : Journal (Recorded σ)) (h : Follows (rule s) j₁ j') :
          ∀ q ∈ j'.store.requests, q.isQuiet = true ∨
            ∃ s, Decides setting.store.recorded p j s ∧ rule s j'.store.made q := by
        obtain ⟨added', hadded', hrule⟩ := h.requests
        intro q hq
        rw [hadded'] at hq
        rcases List.mem_append.mp hq with hq | hq
        · exact .inl (hquiet₁ q hq)
        · exact .inr ⟨s, hdecides, hrule q hq⟩
      have hadvance : Asks (rule s) (s.advance setting.recorded now) j₁ fun _ _ => True :=
        asks_advance (lasting s) (quiet s) (hstep s hdecides)
      exact Pass.Ensures.mono hadvance (fun _ j' h => hfollows j' h.1) fun _ j' h => hfollows j' h

end Roster
