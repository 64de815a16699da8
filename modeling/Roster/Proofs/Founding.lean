/-
Roster.Proofs.Founding — a cluster is founded once.

A second first member would found a second cluster, so a pass that sees no
members asks the source before it creates one.  `Run.founds_once`: in any
run of passes, whatever the watch cache shows, a pass that sees no members
changes nothing unless the source has none either; and when the source
answers with some, the pass fails for good.
-/
import Roster.Proofs.Planning
import Roster.Proofs.Runs
import Roster.Proofs.Steps
import Roster.Sample

namespace Roster

/-- A pass that sees no members while the source has one does nothing but write
the status; when the source answers, it fails with what it found. -/
theorem Visit.turn_of_founded {v : Visit} {before : Memory} {s : Scope} {m : Machine}
    (hscope : before.scope? v.controlPlane = some s) (hempty : s.members.isEmpty = true)
    (hm : m ∈ before.inventory.machines.toList) (howned : s.owns m = true) :
    (v.turn before).after = before.note s v.now ∧
      (0 < s.desired → .listUncached ∉ before.faults →
        ∃ n, (v.turn before).result = .error (.failed (s.foundedAlready n))) := by
  have hpos : 0 < (before.inventory.machines.toList.filter s.owns).length :=
    List.length_pos_of_mem (List.mem_filter.mpr ⟨hm, howned⟩)
  have hpass : v.pass.Ensures ⟨before, []⟩
      (fun _ j => j.store = before.note s v.now ∧
        ¬(0 < s.desired ∧ .listUncached ∉ before.faults))
      fun halt j => j.store = before.note s v.now ∧
        (.listUncached ∉ before.faults → ∃ n, halt = .failed (s.foundedAlready n)) := by
    unfold pass setting
    rw [Memory.reconcile_ensures]
    dsimp only
    rw [hscope]
    dsimp only
    rw [Memory.advance_ensures]
    have hcalled := s.callsFor_plan
    have hzero : s.members.size = 0 := List.length_eq_zero_iff.mpr (List.isEmpty_iff.mp hempty)
    unfold Scope.step
    cases hplan : s.plan with
    | found =>
      dsimp only
      rw [Scope.found_ensures]
      simp only [Memory.note_faults, Memory.note_inventory, if_pos hpos]
      split
      next hfault => exact ⟨trivial, fun hallowed => absurd hfault hallowed⟩
      · exact ⟨trivial, fun _ => ⟨_, rfl⟩⟩
    | grow =>
      rw [hplan] at hcalled
      exact absurd hcalled.1 (by omega)
    | shrink rollout =>
      rw [hplan] at hcalled
      exact absurd hcalled.1 (by omega)
    | stable =>
      rw [hplan] at hcalled
      exact ⟨rfl, fun ⟨hdesired, _⟩ => absurd hcalled.1 (by omega)⟩
  have hturn := turn_of_ensures hpass
  cases hresult : (v.turn before).result with
  | ok action =>
    rw [hresult] at hturn
    exact ⟨hturn.1, fun hdesired hallowed => absurd ⟨hdesired, hallowed⟩ hturn.2⟩
  | error halt =>
    rw [hresult] at hturn
    refine ⟨hturn.1, fun _ hallowed => ?_⟩
    obtain ⟨n, rfl⟩ := hturn.2 hallowed
    exact ⟨n, rfl⟩

/-- In every run, a pass that sees no members changes what is stored only when
the source has no member either.  When members are wanted and the source
answers with one, the pass fails, not to be tried again, and changes nothing
but the status. -/
theorem Run.founds_once {between : Memory → Memory → Prop} {start final : Memory}
    {turns : List Turn} (h : Run between start turns final) :
    ∀ turn ∈ turns, ∀ s, turn.scope? = some s → s.members.isEmpty = true →
      ((turn.after.inventory ≠ turn.before.inventory ∨
          turn.after.created ≠ turn.before.created) →
        ∀ m ∈ turn.before.inventory.machines.toList, s.owns m = false) ∧
      (0 < s.desired → .listUncached ∉ turn.before.faults →
        (∃ m ∈ turn.before.inventory.machines.toList, s.owns m = true) →
        ∃ message statuses,
          turn.result = .error (.failed (.invariant "initialize" message)) ∧
          (Error.invariant "initialize" message).isRetryable = false ∧
          turn.after =
            { turn.before with statuses := turn.before.statuses ++ statuses } ∧
          statuses.length ≤ 1) := by
  intro turn hturn s hscope hempty
  obtain ⟨v, before, -, rfl⟩ : ∃ (v : Visit) (s : Memory), True ∧ turn = v.turn s :=
    h.forall_turns trivial (fun _ _ _ _ => trivial) (fun _ _ _ => trivial) turn hturn
  change before.scope? v.controlPlane = some s at hscope
  obtain ⟨statuses, hlength, hnote⟩ := Memory.note_eq before s v.now
  refine ⟨fun hchanged m hm => ?_, fun hdesired hallowed ⟨m, hm, howned⟩ => ?_⟩
  · -- A stored member would have kept the pass from changing anything.
    rw [← Bool.not_eq_true]
    intro howned
    have hafter : (v.turn before).after = before.note s v.now :=
      (Visit.turn_of_founded hscope hempty hm howned).1
    rw [hafter, hnote] at hchanged
    exact hchanged.elim (· rfl) (· rfl)
  · obtain ⟨hafter, hfails⟩ := Visit.turn_of_founded hscope hempty hm howned
    obtain ⟨n, hresult⟩ := hfails hdesired hallowed
    exact ⟨_, statuses, hresult, rfl, hafter.trans hnote, hlength⟩

/-- A pass over the sample control plane. -/
def Sample.visit : Visit :=
  ⟨controlPlane "cp" 1, .ofSeconds epoch, .usual, ⟨.first, .first, .first⟩⟩

/-- A store with a member that the watch cache does not show. -/
@[irreducible]
def Sample.stale : Memory :=
  let member := machine (.ofSeconds epoch) (controlPlane "cp" 1) "cp-a" (some "az-1")
    (.ofSeconds epoch)
  { memory ["az-1"] with
    inventory := (memory ["az-1"]).inventory.putMachine member
    pinned := some [] }

/-- The sample control plane is not founded again when the cache lost its
member. -/
theorem stale_cache_founds_nothing :
    ∃ message statuses, (Sample.visit.turn Sample.stale).result =
        .error (.failed (.invariant "initialize" message)) ∧
      (Sample.visit.turn Sample.stale).after =
        { Sample.stale with statuses := Sample.stale.statuses ++ statuses } := by
  have hscope : (Sample.stale.scope? Sample.visit.controlPlane).any (fun s =>
      s.members.isEmpty && decide (0 < s.desired) &&
        Sample.stale.inventory.machines.toList.any s.owns) = true := by decide +kernel
  have hallowed : Fault.listUncached ∉ Sample.stale.faults := by decide +kernel
  have hrun : Run (fun _ _ => True) Sample.stale [Sample.visit.turn Sample.stale] _ :=
    .cons trivial (.nil _)
  obtain ⟨s, hs, hfacts⟩ := (Option.any_eq_true ..).mp hscope
  simp only [Bool.and_eq_true, decide_eq_true_eq] at hfacts
  obtain ⟨⟨hempty, hdesired⟩, hany⟩ := hfacts
  obtain ⟨message, statuses, hresult, -, hafter, -⟩ :=
    (hrun.founds_once _ List.mem_cons_self s hs hempty).2 hdesired hallowed
      (List.any_eq_true.mp hany)
  exact ⟨message, statuses, hresult, hafter⟩

end Roster
