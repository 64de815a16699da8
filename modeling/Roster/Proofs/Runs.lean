/-
Roster.Proofs.Runs — passes over a store in memory, one after the other.

A `Visit` is a pass that somebody is about to make, a `Turn` is what came
of it.  In a `Run` every pass finds the store as the pass before left it,
up to what `between` lets happen in the meantime: machines turn healthy,
the watch cache falls behind, calls are told to fail.

`Run.invariant` carries an invariant along a run, and `Run.length_flatMap_le`
adds up what the passes of a run do.
-/
import Roster.Proofs.MemoryPass

namespace Roster

/-- A pass over a control plane, as seen at a moment. -/
structure Visit where
  controlPlane : ControlPlane
  now : Instant
  backoff : Backoff
  draws : Draws

/-- What came of a pass. -/
structure Turn where
  visit : Visit
  before : Memory
  result : Except Halt Action
  after : Memory
  events : List Event

namespace Visit

/-- What a pass works with. -/
def setting (v : Visit) : Setting Memory := ⟨Memory.store, v.backoff, v.draws⟩

/-- The pass. -/
def pass (v : Visit) : Pass Memory Action := reconcile v.setting v.now v.controlPlane

/-- The pass over a store. -/
def turn (v : Visit) (before : Memory) : Turn where
  visit := v
  before := before
  result := (v.pass ⟨before, []⟩).1
  after := (v.pass ⟨before, []⟩).2.store
  events := (v.pass ⟨before, []⟩).2.events

/-- A turn is as the pass ensures. -/
theorem turn_of_ensures {v : Visit} {before : Memory} {ok : Action → Journal Memory → Prop}
    {halt : Halt → Journal Memory → Prop} (h : v.pass.Ensures ⟨before, []⟩ ok halt) :
    match (v.turn before).result with
    | .ok action => ok action ⟨(v.turn before).after, (v.turn before).events⟩
    | .error reason => halt reason ⟨(v.turn before).after, (v.turn before).events⟩ := by
  obtain ⟨hok, hhalt⟩ := Pass.ensures_iff.mp h
  cases hresult : (v.turn before).result with
  | ok action => exact hok action hresult
  | error reason => exact hhalt reason hresult

end Visit

/-- The scope that a pass decided on. -/
def Turn.scope? (t : Turn) : Option Scope := t.before.scope? t.visit.controlPlane

/-- Passes one after the other, from a store to another one. -/
inductive Run (between : Memory → Memory → Prop) : Memory → List Turn → Memory → Prop where
  | nil (store : Memory) : Run between store [] store
  | cons {start before final : Memory} {visit : Visit} {turns : List Turn}
      (wait : between start before) (rest : Run between (visit.turn before).after turns final) :
    Run between start (visit.turn before :: turns) final

namespace Run

variable {between : Memory → Memory → Prop} {start final : Memory} {turns : List Turn}

/-- What holds at the start, and is kept by waiting and by every pass of the
run, holds before and after every pass, and at the end. -/
theorem invariant (inv : Memory → Prop) (h : Run between start turns final) (hstart : inv start)
    (hwait : ∀ s s', inv s → between s s' → inv s')
    (hturn : ∀ (v : Visit) s, v.turn s ∈ turns → inv s → inv (v.turn s).after) :
    (∀ turn ∈ turns, inv turn.before ∧ inv turn.after) ∧ inv final := by
  induction h with
  | nil => exact ⟨by simp, hstart⟩
  | cons wait rest ih =>
    have hbefore := hwait _ _ hstart wait
    have hafter := hturn _ _ List.mem_cons_self hbefore
    obtain ⟨hturns, hfinal⟩ := ih hafter fun v s hmem => hturn v s (List.mem_cons_of_mem _ hmem)
    exact ⟨List.forall_mem_cons.mpr ⟨⟨hbefore, hafter⟩, hturns⟩, hfinal⟩

/-- Every turn of a run is what came of a pass. -/
theorem exists_eq_turn (h : Run between start turns final) :
    ∀ turn ∈ turns, ∃ (v : Visit) (s : Memory), turn = v.turn s := by
  induction h with
  | nil => simp
  | cons wait rest ih => exact List.forall_mem_cons.mpr ⟨⟨_, _, rfl⟩, ih⟩

/-- What holds at the start, and is kept by waiting and by every pass, holds
before every pass. -/
theorem forall_turns {inv : Memory → Prop} (h : Run between start turns final)
    (hstart : inv start) (hwait : ∀ s s', inv s → between s s' → inv s')
    (hturn : ∀ (v : Visit) s, inv s → inv (v.turn s).after) :
    ∀ turn ∈ turns, ∃ (v : Visit) (s : Memory), inv s ∧ turn = v.turn s := by
  intro turn hmem
  obtain ⟨hturns, -⟩ := h.invariant inv hstart hwait fun v s _ => hturn v s
  obtain ⟨v, s, rfl⟩ := h.exists_eq_turn turn hmem
  exact ⟨v, s, (hturns _ hmem).1, rfl⟩

/-- When every pass pays for its items out of a credit, and waiting adds none, all
passes of a run have no more items than there was credit at the start. -/
theorem length_flatMap_le {α : Type} (items : Turn → List α) (credit : Memory → Nat)
    (h : Run between start turns final) (hwait : ∀ s s', between s s' → credit s' ≤ credit s)
    (hturn : ∀ (v : Visit) s, v.turn s ∈ turns →
      (items (v.turn s)).length + credit (v.turn s).after ≤ credit s) :
    (turns.flatMap items).length + credit final ≤ credit start := by
  induction h with
  | nil => simp
  | cons wait rest ih =>
    have hwaited := hwait _ _ wait
    have hpaid := hturn _ _ List.mem_cons_self
    have hrest := ih fun v s hmem => hturn v s (List.mem_cons_of_mem _ hmem)
    rw [List.flatMap_cons, List.length_append]
    omega

end Run

end Roster
