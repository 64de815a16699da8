/-
Roster.Proofs.Mirror — a pass knows its store by the answers only.

A store mirrors another one through `g` when every operation answers the
same in a state and in its image, and leaves corresponding states behind.
`reconcile_mirrors`: then a pass ends the same on both, with the same
reports and corresponding stores.  So what a store keeps besides, such as
a record of the requests, never changes what a pass does.
-/
import Roster.Proofs.Survey

namespace Roster

variable {σ τ α β : Type} {g : τ → σ}

/-- Corresponding journals. -/
def Journal.map (g : τ → σ) (j : Journal τ) : Journal σ := ⟨g j.store, j.events⟩

/-- An operation that answers like another one. -/
def MirrorsCall (g : τ → σ) (outer : Call τ α) (inner : Call σ α) : Prop :=
  ∀ s, inner (g s) = ((outer s).1, g (outer s).2)

/-- A store that answers like another one. -/
structure Mirrors (g : τ → σ) (outer : Store τ) (inner : Store σ) : Prop where
  listMachines (ns cluster) : MirrorsCall g (outer.listMachines ns cluster)
    (inner.listMachines ns cluster)
  listMachinesUncached (ns cluster) : MirrorsCall g (outer.listMachinesUncached ns cluster)
    (inner.listMachinesUncached ns cluster)
  getMachine (ns name) : MirrorsCall g (outer.getMachine ns name) (inner.getMachine ns name)
  getCluster (ns name) : MirrorsCall g (outer.getCluster ns name) (inner.getCluster ns name)
  getObject (r) : MirrorsCall g (outer.getObject r) (inner.getObject r)
  createObject (o) : MirrorsCall g (outer.createObject o) (inner.createObject o)
  createBootstrapConfig (c) : MirrorsCall g (outer.createBootstrapConfig c)
    (inner.createBootstrapConfig c)
  createMachine (m) : MirrorsCall g (outer.createMachine m) (inner.createMachine m)
  delete (r) : MirrorsCall g (outer.delete r) (inner.delete r)
  patchStatus (p status) : MirrorsCall g (outer.patchStatus p status) (inner.patchStatus p status)

/-- A pass that ends like another one, with the same reports. -/
def MirrorsPass (g : τ → σ) (outer : Pass τ α) (inner : Pass σ α) : Prop :=
  ∀ j, inner (j.map g) = ((outer j).1, (outer j).2.map g)

/-! ## One rule for every way to build a pass -/

theorem mirrors_pure (a : α) : MirrorsPass g (pure a) (pure a) := fun _ => rfl

theorem mirrors_fail (e : Error) : MirrorsPass (α := α) g (Pass.fail e) (Pass.fail e) :=
  fun _ => rfl

theorem mirrors_publish (event : Event) : MirrorsPass g (Pass.publish event) (Pass.publish event) :=
  fun _ => rfl

theorem mirrors_decided (d : Except Halt α) : MirrorsPass g (Pass.decided d) (Pass.decided d) := by
  intro j
  cases d <;> rfl

theorem mirrors_call {outer : Call τ α} {inner : Call σ α} (h : MirrorsCall g outer inner) :
    MirrorsPass g (Pass.call outer) (Pass.call inner) := by
  intro j
  have hcall := h j.store
  unfold Pass.call
  simp only [Journal.map, hcall]
  rcases outer j.store with ⟨e | a, s⟩ <;> rfl

theorem mirrors_attempt {outer : Pass τ α} {inner : Pass σ α} (h : MirrorsPass g outer inner) :
    MirrorsPass g outer.attempt inner.attempt := by
  intro j
  unfold Pass.attempt
  rw [h j]
  rcases outer j with ⟨(e | _) | a, j'⟩ <;> rfl

theorem mirrors_inContext {message : String} {outer : Pass τ α} {inner : Pass σ α}
    (h : MirrorsPass g outer inner) :
    MirrorsPass g (outer.inContext message) (inner.inContext message) := by
  intro j
  unfold Pass.inContext
  rw [h j]
  rcases outer j with ⟨(e | _) | a, j'⟩ <;> rfl

theorem mirrors_bind {outer : Pass τ β} {inner : Pass σ β} {f : β → Pass τ α} {f' : β → Pass σ α}
    (h : MirrorsPass g outer inner) (hf : ∀ b, MirrorsPass g (f b) (f' b)) :
    MirrorsPass g (outer >>= f) (inner >>= f') := by
  intro j
  rw [Pass.bind_apply, Pass.bind_apply, h j]
  rcases outer j with ⟨r | b, j'⟩
  · rfl
  · exact hf b j'

/-! ## The parts of a pass -/

variable {outer : Store τ} {inner : Store σ} (h : Mirrors g outer inner)
include h

theorem removeEach_mirrors (refs : List Reference) :
    MirrorsPass g (removeEach outer refs) (removeEach inner refs) := by
  induction refs with
  | nil => exact mirrors_pure _
  | cons r rest ih =>
    refine mirrors_bind (mirrors_attempt (mirrors_call (h.delete r))) fun deleted => ?_
    refine mirrors_bind ih fun failures => ?_
    cases deleted with
    | ok _ => exact mirrors_pure _
    | error e =>
      dsimp only
      split <;> exact mirrors_pure _

theorem removeAll_mirrors (refs : List Reference) :
    MirrorsPass g (removeAll outer refs) (removeAll inner refs) := by
  refine mirrors_bind (removeEach_mirrors h refs) fun failures => ?_
  cases Error.ofList? failures with
  | none => exact mirrors_pure _
  | some e => exact mirrors_fail e

theorem rollBack_mirrors (refs : List Reference) (cause : Error) :
    MirrorsPass g (Scope.rollBack outer refs cause) (Scope.rollBack inner refs cause) := by
  refine mirrors_bind (mirrors_attempt (removeAll_mirrors h refs)) fun ended => ?_
  cases ended <;> exact mirrors_fail _

theorem cloneInfrastructure_mirrors (s : Scope) (suffix : Suffix) :
    MirrorsPass g (s.cloneInfrastructure outer suffix) (s.cloneInfrastructure inner suffix) := by
  refine mirrors_bind (mirrors_call (h.getObject _)) fun template => ?_
  refine mirrors_bind (mirrors_decided _) fun clone => ?_
  refine mirrors_bind (mirrors_call (h.createObject clone)) fun created => ?_
  cases created.reference? with
  | none => exact mirrors_fail _
  | some r => exact mirrors_pure r

theorem createBootstrapConfig_mirrors (s : Scope) (suffix : Suffix) (agentConfig : AgentConfig) :
    MirrorsPass g (s.createBootstrapConfig outer suffix agentConfig)
      (s.createBootstrapConfig inner suffix agentConfig) := by
  refine mirrors_bind (mirrors_decided _) fun config => ?_
  exact mirrors_bind (mirrors_inContext (mirrors_call (h.createBootstrapConfig config)))
    fun created => mirrors_pure _

theorem createMachine_mirrors (s : Scope) (suffix : Suffix) (infrastructure bootstrap : Reference)
    (failureDomain : Option String) :
    MirrorsPass g (s.createMachine outer suffix infrastructure bootstrap failureDomain)
      (s.createMachine inner suffix infrastructure bootstrap failureDomain) := by
  refine mirrors_bind (mirrors_decided _) fun machine => ?_
  exact mirrors_inContext (mirrors_call (h.createMachine machine))

theorem provision_mirrors (s : Scope) (draws : Draws) (agentConfig : AgentConfig)
    (failureDomain : Option String) :
    MirrorsPass g (s.provision outer draws agentConfig failureDomain)
      (s.provision inner draws agentConfig failureDomain) := by
  refine mirrors_bind (mirrors_inContext (cloneInfrastructure_mirrors h s _)) ?_
  intro infrastructure
  refine mirrors_bind (mirrors_attempt (createBootstrapConfig_mirrors h s _ _)) ?_
  rintro (e | bootstrap)
  · exact rollBack_mirrors h _ _
  refine mirrors_bind (mirrors_attempt (createMachine_mirrors h s _ _ _ _)) ?_
  rintro (e | machine)
  · exact rollBack_mirrors h _ _
  · exact mirrors_pure machine

variable {backoff : Backoff} {draws : Draws}

theorem addMember_mirrors (s : Scope) (action created failedReason failed : String) :
    MirrorsPass g (s.addMember ⟨outer, backoff, draws⟩ action created failedReason failed)
      (s.addMember ⟨inner, backoff, draws⟩ action created failedReason failed) := by
  refine mirrors_bind (mirrors_attempt (provision_mirrors h s _ _ _)) ?_
  rintro (e | machine)
  · exact mirrors_bind (mirrors_publish _) fun _ => mirrors_fail e
  · exact mirrors_bind (mirrors_publish _) fun _ => mirrors_pure _

omit h in
theorem check_mirrors (s : Scope) (excluded : List Machine) :
    MirrorsPass g (s.check backoff excluded) (s.check backoff excluded) := by
  unfold Scope.check
  dsimp only
  split
  · exact mirrors_bind (mirrors_publish _) fun _ => mirrors_pure _
  · exact mirrors_pure _

theorem step_mirrors (s : Scope) :
    MirrorsPass g (s.step ⟨outer, backoff, draws⟩) (s.step ⟨inner, backoff, draws⟩) := by
  unfold Scope.step
  cases s.plan with
  | found =>
    refine mirrors_bind (mirrors_call (h.listMachinesUncached _ _)) fun listed => ?_
    dsimp only
    split
    · exact mirrors_fail _
    · exact addMember_mirrors h s _ _ _ _
  | grow =>
    refine mirrors_bind (check_mirrors s []) fun verdict => ?_
    cases verdict.blocking with
    | some wait => exact mirrors_pure wait
    | none => exact mirrors_bind (mirrors_publish _) fun _ => addMember_mirrors h s _ _ _ _
  | shrink rollout =>
    dsimp only [Scope.shrink]
    cases s.select (if rollout = true then s.outdated else .empty) with
    | error e => exact mirrors_fail _
    | ok candidate =>
      refine mirrors_bind (check_mirrors s [candidate]) fun verdict => ?_
      cases verdict.blocking with
      | some wait => exact mirrors_pure wait
      | none =>
        refine mirrors_bind (mirrors_publish _) fun _ => ?_
        refine mirrors_bind (mirrors_attempt (mirrors_call (h.delete _))) ?_
        rintro (e | _)
        · dsimp only
          split
          · exact mirrors_pure _
          · exact mirrors_bind (mirrors_publish _) fun _ => mirrors_fail _
        · exact mirrors_bind (mirrors_publish _) fun _ => mirrors_pure _
  | stable => exact mirrors_pure _

theorem advance_mirrors (s : Scope) (now : Instant) :
    MirrorsPass g (s.advance ⟨outer, backoff, draws⟩ now)
      (s.advance ⟨inner, backoff, draws⟩ now) := by
  unfold Scope.advance
  dsimp only
  split
  · refine mirrors_bind (mirrors_call (h.patchStatus _ _)) fun _ => ?_
    exact mirrors_bind (step_mirrors h s) fun _ => mirrors_pure _
  · exact mirrors_bind (step_mirrors h s) fun _ => mirrors_pure _

theorem survey_mirrors (p : ControlPlane) : MirrorsPass g (survey outer p) (survey inner p) := by
  unfold survey
  split
  · exact mirrors_pure _
  split
  · exact mirrors_bind (mirrors_publish _) fun _ => mirrors_pure _
  split
  · exact mirrors_pure _
  refine mirrors_bind (mirrors_call (h.getCluster _ _)) fun found => ?_
  cases found with
  | none => exact mirrors_pure _
  | some cluster =>
    dsimp only
    split
    · exact mirrors_pure _
    · exact mirrors_bind (mirrors_call (h.listMachines _ _)) fun machines => mirrors_pure _

/-- A pass ends the same on a store that mirrors another one. -/
theorem reconcile_mirrors (now : Instant) (p : ControlPlane) :
    MirrorsPass g (reconcile ⟨outer, backoff, draws⟩ now p)
      (reconcile ⟨inner, backoff, draws⟩ now p) := by
  rw [reconcile_eq, reconcile_eq]
  refine mirrors_bind (survey_mirrors h p) fun found => ?_
  cases found with
  | none => exact mirrors_pure _
  | some s => exact advance_mirrors h s now

end Roster
