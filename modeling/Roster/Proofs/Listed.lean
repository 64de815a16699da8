/-
Roster.Proofs.Listed — the members of a control plane from pass to pass.

`Memory.roster` is the set of stored machines that a pass lists for a control
plane and finds managed by it.  As long as the watch cache is not pinned, it
is what every pass decides on (`Memory.members_eq_roster`), whatever became
of the specification in the meantime (`ControlPlane.Continues`).

`Visit.turn_roster` tells what a pass does to it.
-/
import Roster.Proofs.Membership

namespace Roster

namespace ControlPlane

variable {p q : ControlPlane}

/-- The number of members a control plane should have. -/
def desired (p : ControlPlane) : Nat := p.spec.desiredReplicas.toInt.toNat

/-- Whether a machine is one of the cluster of a control plane and managed by it. -/
def lists (p : ControlPlane) (m : Machine) : Bool :=
  match p.metadata.ownerName? Kind.cluster.name with
  | some clusterName => Inventory.belongs p.ns clusterName m && p.manages m
  | none => false

/-- `q` is the control plane `p` at another time.  What it specifies may differ. -/
structure Continues (p q : ControlPlane) : Prop where
  ns : q.ns = p.ns
  uid : q.metadata.uid = p.metadata.uid
  owner : q.metadata.ownerName? Kind.cluster.name = p.metadata.ownerName? Kind.cluster.name

theorem Continues.lists_eq (h : p.Continues q) : q.lists = p.lists := by
  funext m
  unfold lists manages
  rw [h.owner, h.ns, h.uid]

end ControlPlane

namespace Memory

variable {p q : ControlPlane} {s : Scope} {store : Memory}

/-- The members of a control plane that are stored. -/
def roster (store : Memory) (p : ControlPlane) : Members :=
  store.inventory.machines.filter p.lists

theorem owns_eq_lists (h : store.scope? q = some s) : s.owns = q.lists := by
  obtain ⟨-, -, clusterName, cluster, howner, hcluster, -, rfl⟩ := scope?_eq_some_iff.mp h
  obtain ⟨-, hidentity⟩ := Keyed.get?_eq_some_iff.mp hcluster
  obtain rfl : cluster.displayName = clusterName := congrArg Identity.name hidentity
  funext m
  rw [ControlPlane.lists, howner]
  rfl

/-- When the watch cache is not pinned, a pass decides on the members that are
stored. -/
theorem members_eq_roster (h : store.scope? q = some s) (hunpinned : store.pinned = none)
    (hcontinues : p.Continues q) : s.members = store.roster p := by
  have hseen := scope?_of_unpinned h rfl hunpinned q.status
  have hself : s.within store q.status = s := Option.some.inj (hseen.symm.trans h)
  rw [roster, ← hcontinues.lists_eq, ← owns_eq_lists h, ← hself]
  rfl

/-- The store with other reports on its machines. -/
def reported (store : Memory) (report : Machine → Option MachineStatus) : Memory :=
  let reported (m : Machine) : Machine := { m with status := report m }
  { store with inventory := { store.inventory with
      machines := ⟨store.inventory.machines.toList.map reported,
        List.pairwise_map.mpr store.inventory.machines.ordered⟩ } }

/-- Reports do not say whose member a machine is. -/
theorem toList_roster_reported (report : Machine → Option MachineStatus) :
    ((store.reported report).roster p).toList =
      (store.roster p).toList.map fun m => { m with status := report m } :=
  List.filter_map

end Memory

/-- The store with all machines reported healthy. -/
def Sample.healthy (store : Memory) : Memory :=
  store.reported fun _ => some ⟨none, [.holding (.ofSeconds epoch) agentHealthy]⟩

/-- A pass over a store whose watch cache is not pinned leaves the members as
they are, or changes them as a step does. -/
theorem Visit.turn_roster {v : Visit} {before : Memory} {p : ControlPlane}
    (hunpinned : before.pinned = none) (hcontinues : p.Continues v.controlPlane) :
    (v.turn before).after.roster p = before.roster p ∨
      ∃ s ended, before.scope? v.controlPlane = some s ∧ s.members = before.roster p ∧
        s.owns = p.lists ∧
        s.Changes v.draws before.inventory (v.turn before).after.inventory ended := by
  cases hscope : before.scope? v.controlPlane with
  | none =>
    have hafter : (v.turn before).after = before := (turn_of_scope?_eq_none hscope).2
    exact .inl (congrArg (Memory.roster · p) hafter)
  | some s =>
    obtain ⟨ended, -, -, hends⟩ := turn_ends hscope
    have howns : s.owns = p.lists := (Memory.owns_eq_lists hscope).trans hcontinues.lists_eq
    exact .inr ⟨s, ended, rfl, Memory.members_eq_roster hscope hunpinned hcontinues, howns,
      by simpa using hends.changes⟩

end Roster
