/-
Roster.Proofs.Pass — what holds after a pass.

`p.Ensures j ok halt` says how the pass `p` ends when it is started from
the journal `j`: with a value and a journal of which `ok` holds, or
without a value, for a reason and with a journal of which `halt` holds.
Every way to build a pass has one rule, an equivalence.  So a pass is
taken apart from the front by rewriting with the rules, and a part that
has a lemma of its own is put in by `Ensures.mono`.
-/
import Roster.Pass

namespace Roster

/-- Why a pass ended, with what was being attempted. -/
def Halt.inContext (message : String) : Halt → Halt
  | .failed e => .failed (e.wrap message)
  | .aborted => .aborted

namespace Pass

/-- Whether a pass failed; one that was aborted did not. -/
def hasFailed {α : Type} : Except Halt α → Bool
  | .error (.failed _) => true
  | .error .aborted => false
  | .ok _ => false

/-- The failure that a pass ended with, if it failed. -/
def failure? {α : Type} : Except Halt α → Option Error
  | .error (.failed e) => some e
  | .error .aborted => none
  | .ok _ => none

variable {σ α β : Type} {j : Journal σ}

theorem failure?_eq_some_iff {ended : Except Halt α} {e : Error} :
    failure? ended = some e ↔ ended = .error (.failed e) := by
  rcases ended with (e' | _) | a <;> simp [failure?]

/-- How a pass ends. -/
def Ensures (p : Pass σ α) (j : Journal σ) (ok : α → Journal σ → Prop)
    (halt : Halt → Journal σ → Prop) : Prop :=
  match p j with
  | (.ok a, j') => ok a j'
  | (.error h, j') => halt h j'

variable {ok : α → Journal σ → Prop} {halt : Halt → Journal σ → Prop}

/-- A pass ensures what holds of the value and the journal it ends with. -/
theorem ensures_iff {p : Pass σ α} :
    p.Ensures j ok halt ↔
      (∀ a, (p j).1 = .ok a → ok a (p j).2) ∧ (∀ h, (p j).1 = .error h → halt h (p j).2) := by
  unfold Ensures
  rcases p j with ⟨a | h, j'⟩ <;> simp

/-- A pass that ensures the same however it ends. -/
theorem ensures_iff_end {p : Pass σ α} (holds : Except Halt α → Journal σ → Prop) :
    p.Ensures j (fun a => holds (.ok a)) (fun h => holds (.error h)) ↔ holds (p j).1 (p j).2 := by
  unfold Ensures
  rcases p j with ⟨a | h, j'⟩ <;> rfl

theorem Ensures.mono {p : Pass σ α} {ok' : α → Journal σ → Prop}
    {halt' : Halt → Journal σ → Prop} (h : p.Ensures j ok halt)
    (hok : ∀ a j', ok a j' → ok' a j') (hhalt : ∀ r j', halt r j' → halt' r j') :
    p.Ensures j ok' halt' := by
  unfold Ensures at h ⊢
  rcases hp : p j with ⟨r | a, j'⟩ <;> rw [hp] at h
  · exact hhalt r j' h
  · exact hok a j' h

/-- A pass that goes on with the value of another one. -/
theorem bind_apply {p : Pass σ β} {f : β → Pass σ α} :
    (p >>= f) j = match p j with
      | (.ok b, j') => f b j'
      | (.error h, j') => (.error h, j') := by
  show (ExceptT.bindCont f (p j).1 (p j).2) = _
  rcases p j with ⟨b | h, j'⟩ <;> rfl

/-! ## One rule for every way to build a pass -/

theorem ensures_pure {a : α} : (pure a : Pass σ α).Ensures j ok halt ↔ ok a j := Iff.rfl

theorem ensures_bind {p : Pass σ β} {f : β → Pass σ α} :
    (p >>= f).Ensures j ok halt ↔ p.Ensures j (fun b j' => (f b).Ensures j' ok halt) halt := by
  unfold Ensures
  rw [bind_apply]
  rcases p j with ⟨b | h, j'⟩ <;> rfl

theorem ensures_ite {c : Prop} [Decidable c] {p q : Pass σ α} :
    (if c then p else q).Ensures j ok halt ↔
      (c → p.Ensures j ok halt) ∧ (¬ c → q.Ensures j ok halt) := by
  split <;> simp [*]

theorem ensures_call {op : Call σ α} :
    (call op).Ensures j ok halt ↔
      match op j.store with
      | (.ok a, store) => ok a { j with store := store }
      | (.error e, store) => halt (.failed e) { j with store := store } := by
  unfold Ensures call
  rcases op j.store with ⟨e | a, store⟩ <;> rfl

theorem ensures_publish {event : Event} {ok : Unit → Journal σ → Prop} :
    (publish event).Ensures j ok halt ↔ ok () { j with events := j.events ++ [event] } := Iff.rfl

theorem ensures_fail {e : Error} : (fail e : Pass σ α).Ensures j ok halt ↔ halt (.failed e) j :=
  Iff.rfl

theorem ensures_decided {d : Except Halt α} :
    (decided d : Pass σ α).Ensures j ok halt ↔
      match d with
      | .ok a => ok a j
      | .error h => halt h j := by
  cases d <;> rfl

/-- What a pass ensures when its failures are handed on as values. -/
theorem ensures_attempt {p : Pass σ α} {ok : Except Error α → Journal σ → Prop} :
    p.attempt.Ensures j ok halt ↔
      p.Ensures j (fun a => ok (.ok a)) fun
        | .failed e, j' => ok (.error e) j'
        | .aborted, j' => halt .aborted j' := by
  unfold Ensures attempt
  rcases p j with ⟨(e | _) | a, j'⟩ <;> rfl

/-- What a pass ensures when it says what was being attempted. -/
theorem ensures_inContext {p : Pass σ α} {message : String} :
    (p.inContext message).Ensures j ok halt ↔
      p.Ensures j ok fun h => halt (h.inContext message) := by
  unfold Ensures inContext
  rcases p j with ⟨(e | _) | a, j'⟩ <;> rfl

end Pass

end Roster
