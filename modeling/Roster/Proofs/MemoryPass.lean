/-
Roster.Proofs.MemoryPass — a pass over a store in memory, up to its step.

Looking at a store in memory never fails and changes nothing, so what a
pass decides on is a function of the store, `Memory.scope?`.  Then at most
one status is written (`Memory.note`), and the rest of the pass is one
step (`reconcile_ensures`).
-/
import Roster.Proofs.Memory
import Roster.Proofs.Survey

namespace Roster

/-- What a pass reports about a control plane before it looks any further. -/
def ControlPlane.objections (p : ControlPlane) : List Event :=
  if p.metadata.deletionTimestamp.isSome then []
  else (p.spec.fault? p.displayName).toList.map p.faultReport

/-- Whether a machine belongs to the cluster of the control plane and is managed
by it. -/
def Scope.owns (s : Scope) (m : Machine) : Bool :=
  Inventory.belongs s.ns s.clusterName m && s.controlPlane.manages m

/-- The scope with the machines that the control plane owns in a store, and with
another status. -/
def Scope.within (s : Scope) (store : Memory) (status : Option ControlPlaneStatus) : Scope where
  controlPlane := { s.controlPlane with status := status }
  cluster := s.cluster
  members := store.inventory.machines.filter s.owns

/-- Among all stored machines a control plane finds those that it owns. -/
theorem Scope.ofMachines_toList (p : ControlPlane) (cluster : Cluster) (machines : Members) :
    ofMachines p cluster (machines.toList.filter (Inventory.belongs p.ns cluster.displayName)) =
      ⟨p, cluster, machines.filter fun m =>
        Inventory.belongs p.ns cluster.displayName m && p.manages m⟩ := by
  have hlisted : (Keyed.ofList
      (machines.toList.filter (Inventory.belongs p.ns cluster.displayName)) : Members) =
      machines.filter (Inventory.belongs p.ns cluster.displayName) :=
    Keyed.ofList_toList (machines.filter _)
  rw [ofMachines, hlisted, Keyed.filter_filter]

namespace Memory

variable {s : Scope} {p : ControlPlane} {j : Journal Memory}

/-- The scope that a pass over `p` decides on. -/
def scope? (store : Memory) (p : ControlPlane) : Option Scope :=
  if p.metadata.deletionTimestamp.isSome || (p.spec.fault? p.displayName).isSome then none
  else
    match p.metadata.ownerName? Kind.cluster.name with
    | none => none
    | some clusterName =>
      match store.inventory.clusters.get? ⟨p.ns, clusterName⟩ with
      | none => none
      | some cluster =>
        if cluster.spec.paused then none
        else some (.ofMachines p cluster (store.cached.filter (Inventory.belongs p.ns clusterName)))

/-- What a scope in memory consists of. -/
theorem scope?_eq_some_iff {store : Memory} :
    store.scope? p = some s ↔
      p.metadata.deletionTimestamp = none ∧ p.spec.fault? p.displayName = none ∧
      ∃ clusterName cluster, p.metadata.ownerName? Kind.cluster.name = some clusterName ∧
        store.inventory.clusters.get? ⟨p.ns, clusterName⟩ = some cluster ∧
        cluster.spec.paused = false ∧
        .ofMachines p cluster (store.cached.filter (Inventory.belongs p.ns clusterName)) = s := by
  unfold scope?
  cases p.metadata.deletionTimestamp with
  | some t => simp
  | none =>
    cases p.spec.fault? p.displayName with
    | some e => simp
    | none =>
      cases p.metadata.ownerName? Kind.cluster.name with
      | none => simp
      | some clusterName =>
        cases hcluster : store.inventory.clusters.get? ⟨p.ns, clusterName⟩ with
        | none => simp [hcluster]
        | some cluster =>
          cases hpaused : cluster.spec.paused <;> simp [hcluster, hpaused]

theorem scope?_controlPlane {store : Memory} (h : store.scope? p = some s) :
    s.controlPlane = p := by
  obtain ⟨-, -, _, _, -, -, -, rfl⟩ := scope?_eq_some_iff.mp h
  rfl

/-- When the watch cache is not pinned, a later pass decides on what the store
holds by then.  The status may have changed in the meantime. -/
theorem scope?_of_unpinned {start store : Memory} (h : start.scope? p = some s)
    (hclusters : store.inventory.clusters = start.inventory.clusters)
    (hunpinned : store.pinned = none) (status : Option ControlPlaneStatus) :
    store.scope? { p with status := status } = some (s.within store status) := by
  obtain ⟨halive, hvalid, clusterName, cluster, howner, hcluster, hrunning, rfl⟩ :=
    scope?_eq_some_iff.mp h
  obtain ⟨-, hidentity⟩ := Keyed.get?_eq_some_iff.mp hcluster
  obtain rfl : cluster.displayName = clusterName := congrArg Identity.name hidentity
  refine scope?_eq_some_iff.mpr ⟨halive, hvalid, _, cluster, howner, ?_, hrunning, ?_⟩
  · rw [hclusters]
    exact hcluster
  · rw [cached, hunpinned, Option.getD_none]
    exact Scope.ofMachines_toList { p with status := status } cluster store.inventory.machines

/-- Looking at a store in memory never fails and changes nothing. -/
theorem survey_ensures {ok : Option Scope → Journal Memory → Prop}
    {halt : Halt → Journal Memory → Prop} :
    (survey store p).Ensures j ok halt ↔
      ok (j.store.scope? p) { j with events := j.events ++ p.objections } := by
  have hcall (ns name : String) : store.getCluster ns name j.store =
    (.ok (j.store.inventory.clusters.get? ⟨ns, name⟩), j.store) := rfl
  have hlist (ns name : String) : store.listMachines ns name j.store =
    (.ok (j.store.cached.filter (Inventory.belongs ns name)), j.store) := rfl
  unfold survey scope? ControlPlane.objections
  cases p.metadata.deletionTimestamp with
  | some t => simp [Pass.ensures_pure]
  | none =>
    cases p.spec.fault? p.displayName with
    | some e =>
      rw [if_neg (by simp), Pass.ensures_bind, Pass.ensures_publish]
      rfl
    | none =>
      cases p.metadata.ownerName? Kind.cluster.name with
      | none => simp [Pass.ensures_pure]
      | some clusterName =>
        rw [if_neg (by simp), Pass.ensures_bind, Pass.ensures_call, hcall]
        dsimp only
        cases j.store.inventory.clusters.get? ⟨p.ns, clusterName⟩ with
        | none => simp [Pass.ensures_pure]
        | some cluster =>
          dsimp only
          rw [Pass.ensures_ite, Pass.ensures_bind, Pass.ensures_call, hlist]
          cases cluster.spec.paused <;> simp [Pass.ensures_pure]

theorem decides_iff : Decides store p j s ↔ j.store.scope? p = some s := by
  have hanswer : (Roster.survey store p j).1 = .ok (j.store.scope? p) :=
    (Pass.ensures_iff_end fun found _ => found = .ok (j.store.scope? p)).mp
      (survey_ensures.mpr rfl)
  rw [Decides, hanswer, Except.ok.injEq]

/-- The store after the status of a scope was written, if it changed. -/
def note (store : Memory) (s : Scope) (now : Instant) : Memory :=
  if s.controlPlane.status ≠ some (s.status now) then
    { store with statuses := store.statuses ++ [s.status now] }
  else store

@[simp] theorem note_inventory {store : Memory} {now : Instant} :
    (store.note s now).inventory = store.inventory := by
  unfold note
  split <;> rfl

@[simp] theorem note_faults {store : Memory} {now : Instant} :
    (store.note s now).faults = store.faults := by
  unfold note
  split <;> rfl

@[simp] theorem note_pinned {store : Memory} {now : Instant} :
    (store.note s now).pinned = store.pinned := by
  unfold note
  split <;> rfl

@[simp] theorem note_backdrop {store : Memory} {now : Instant} :
    (store.note s now).backdrop = store.backdrop := by
  unfold note
  split <;> rfl

/-- Writing the status adds one entry to the statuses at most. -/
theorem note_eq (store : Memory) (s : Scope) (now : Instant) :
    ∃ statuses, statuses.length ≤ 1 ∧
      store.note s now = { store with statuses := store.statuses ++ statuses } := by
  unfold note
  split
  · exact ⟨[s.status now], Nat.le_refl 1, rfl⟩
  · exact ⟨[], Nat.zero_le 1, by simp⟩

/-- Writing the status does not change how deletions are answered. -/
theorem delete_note (r : Reference) (store : Memory) (s : Scope) (now : Instant) :
    (Memory.store.delete r (store.note s now)).1 = (Memory.store.delete r store).1 := by
  obtain ⟨statuses, -, hnote⟩ := note_eq store s now
  rw [hnote]
  show (delete r { store with statuses := _ }).1 = (delete r store).1
  unfold delete
  have hfault (f : Fault) :
      Memory.fault? { store with statuses := store.statuses ++ statuses } f = store.fault? f := rfl
  rw [hfault, hfault]
  cases (store.fault? (.delete r.name)).or (store.fault? .deleteAny) with
  | some e => rfl
  | none => cases store.inventory.remove? r <;> rfl

variable {backoff : Backoff} {draws : Draws} {now : Instant} {ok : Action → Journal Memory → Prop}
  {halt : Halt → Journal Memory → Prop}

/-- A pass with a scope writes the status and takes the step. -/
theorem advance_ensures :
    (s.advance ⟨store, backoff, draws⟩ now).Ensures j ok halt ↔
      (s.step ⟨store, backoff, draws⟩).Ensures { j with store := j.store.note s now }
        (fun outcome => ok (outcome.action backoff)) halt := by
  have hpatch (status : ControlPlaneStatus) : store.patchStatus s.controlPlane status j.store =
    (.ok (), { j.store with statuses := j.store.statuses ++ [status] }) := rfl
  unfold Scope.advance note
  dsimp only
  split
  · rw [Pass.ensures_bind, Pass.ensures_call, hpatch]
    dsimp only
    rw [Pass.ensures_bind]
    rfl
  · rw [Pass.ensures_bind]
    rfl

/-- A pass does nothing without a scope, and with one it advances it. -/
theorem reconcile_ensures :
    (reconcile ⟨store, backoff, draws⟩ now p).Ensures j ok halt ↔
      match j.store.scope? p with
      | none => ok .await { j with events := j.events ++ p.objections }
      | some s => (s.advance ⟨store, backoff, draws⟩ now).Ensures j ok halt := by
  rw [reconcile_eq, Pass.ensures_bind, survey_ensures]
  cases hscope : j.store.scope? p with
  | none => rfl
  | some s =>
    obtain ⟨hdeletion, hfault, -⟩ := scope?_eq_some_iff.mp hscope
    simp [ControlPlane.objections, hdeletion, hfault]

/-- A pass without a scope waits for a change.  Of all there is only the reports are
touched, and only if there is something wrong. -/
theorem reconcile_of_scope?_eq_none (h : j.store.scope? p = none) :
    reconcile ⟨store, backoff, draws⟩ now p j =
      (.ok .await, { j with events := j.events ++ p.objections }) := by
  refine Prod.ext_iff.mpr ((Pass.ensures_iff_end
    (p := reconcile ⟨store, backoff, draws⟩ now p) fun result j' =>
      result = .ok .await ∧ j' = { j with events := j.events ++ p.objections }).mp ?_)
  rw [reconcile_ensures, h]
  exact ⟨rfl, rfl⟩

end Memory

end Roster
