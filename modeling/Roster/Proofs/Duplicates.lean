/-
Roster.Proofs.Duplicates — machines that are listed more than once.

A list of machines becomes a set of members by the last machine of every
identity (`Members.collects_ofList`).  Whose a machine is, is asked after
that: when the last machine of an identity is not managed any more, an
earlier one of the same identity does not count, though it was
(`Scope.has_eq_false_of_last`).

`Scope.members_are_last_listed` says this with all that the decisions about
members rely on: what filters keep, that they can be put together and
exchanged, and that a set is made again from its own members.
-/
import Roster.Proofs.Keyed
import Roster.Sample
import Roster.Scope

namespace Roster

namespace Machine

/-- Before in the order of identities: by namespace, then by name. -/
def Precedes (a b : Machine) : Prop := a.ns < b.ns ∨ a.ns = b.ns ∧ a.name < b.name

/-- The last machine of its identity in a list. -/
def IsLastIn (m : Machine) (machines : List Machine) : Prop :=
  ∃ front back, machines = front ++ m :: back ∧ ∀ b ∈ back, b.identity ≠ m.identity

theorem compare_identity_eq_lt_iff {a b : Machine} :
    compare a.identity b.identity = .lt ↔ a.Precedes b := by
  have hlt (s t : String) : compare s t = .lt ↔ s < t := compareOfLessAndEq_eq_lt
  show (compare a.ns b.ns).then (compare a.name b.name) = .lt ↔ _
  rw [Ordering.then_eq_lt, hlt, hlt, Std.compare_eq_iff_eq]
  rfl

end Machine

namespace Members

/-- The members that are made from a list of machines. -/
structure Collects (s : Members) (machines : List Machine) : Prop where
  /-- They are in strictly ascending order. -/
  ascending : s.toList.Pairwise Machine.Precedes
  /-- There is one for every identity in the list. -/
  distinct : s.identities.Nodup
  complete : ∀ i, i ∈ s.identities ↔ i ∈ machines.map Machine.identity
  /-- It is the last machine of this identity. -/
  last : ∀ m ∈ s.toList, m.IsLastIn machines

/-- The members of `s` that satisfy a condition, in the order they have in `s`. -/
structure Narrows (t s : Members) (p : Machine → Bool) : Prop where
  sublist : t.toList.Sublist s.toList
  mem_iff : ∀ m, m ∈ t.toList ↔ m ∈ s.toList ∧ p m = true

theorem mem_ofList_iff {machines : List Machine} {m : Machine} :
    m ∈ (Keyed.ofList machines : Members).toList ↔ m.IsLastIn machines :=
  Keyed.mem_ofList

/-- A set has a machine when a member has its identity. -/
theorem has_iff {s : Members} {m : Machine} : s.has m = true ↔ m.identity ∈ s.identities := by
  rw [has, Keyed.contains_iff, identities, List.mem_map]

theorem collects_ofList (machines : List Machine) :
    Collects (Keyed.ofList machines) machines where
  ascending := (Keyed.ofList machines : Members).ordered.imp Machine.compare_identity_eq_lt_iff.mp
  distinct := Keyed.nodup_keys _
  complete i := by
    rw [identities, List.mem_map, List.mem_map, ← Keyed.contains_iff, Keyed.contains_ofList]
  last _ hm := mem_ofList_iff.mp hm

theorem narrows_filter (s : Members) (p : Machine → Bool) : Narrows (s.filter p) s p :=
  ⟨List.filter_sublist, fun _ => Keyed.mem_filter⟩

end Members

namespace Scope

variable {p : ControlPlane} {cluster : Cluster} {machines : List Machine} {m : Machine}

theorem mem_ofMachines_iff : m ∈ (ofMachines p cluster machines).members.toList ↔
    m.IsLastIn machines ∧ p.manages m = true := by
  rw [ofMachines, Keyed.mem_filter, Members.mem_ofList_iff]

/-- When the last machine of an identity is not managed, no machine of this identity
is a member. -/
theorem has_eq_false_of_last (hlast : m.IsLastIn machines) (hnot : p.manages m = false) :
    (ofMachines p cluster machines).members.has m = false := by
  refine Keyed.contains_eq_false_iff.mpr fun a ha hkey => ?_
  obtain ⟨hlisted, hmanaged⟩ := Keyed.mem_filter.mp ha
  obtain rfl : a = m :=
    Keyed.eq_of_key_eq _ hlisted (Members.mem_ofList_iff.mpr hlast) hkey
  rw [hnot] at hmanaged
  cases hmanaged

/-- Collected from the managed machines alone, an earlier one would have stayed. -/
theorem has_of_managed {earlier : Machine} (hearlier : earlier ∈ machines)
    (hsame : earlier.identity = m.identity) (hmanaged : p.manages earlier = true) :
    Members.has (.ofList (machines.filter p.manages)) m = true :=
  Keyed.contains_ofList.mpr ⟨earlier, List.mem_filter.mpr ⟨hearlier, hmanaged⟩, hsame⟩

/-- A list of machines is collected by identity: in ascending order, the last
machine of each.  Filters keep the members that satisfy them, in this order, and
may be put together and exchanged.  A machine is found by its identity, and a set
is made again from its own members.

The members of a control plane are the collected machines that it manages.  So an
identity is dropped when the last machine of it is not managed, even if an earlier
one was, which would have been kept if the others had been left out first. -/
theorem members_are_last_listed (machines : List Machine) (p : ControlPlane) (cluster : Cluster) :
    Members.Collects (.ofList machines) machines ∧
    (∀ (s : Members) (q q' : Machine → Bool), Members.Narrows (s.filter q) s q ∧
      (s.filter q).filter q' = s.filter (fun m => q m && q' m) ∧
      (s.filter q).filter q' = (s.filter q').filter q) ∧
    (∀ (s : Members) (m : Machine), s.has m = true ↔ m.identity ∈ s.identities) ∧
    (∀ s : Members, Keyed.ofList s.toList = s) ∧
    (∀ m, m ∈ (ofMachines p cluster machines).members.toList ↔
      m.IsLastIn machines ∧ p.manages m = true) ∧
    ∀ m, m.IsLastIn machines → p.manages m = false →
      (ofMachines p cluster machines).members.has m = false ∧
      ∀ earlier ∈ machines, earlier.identity = m.identity → p.manages earlier = true →
        Members.has (.ofList (machines.filter p.manages)) m = true := by
  refine ⟨Members.collects_ofList machines, fun s q q' => ⟨Members.narrows_filter s q, ?_, ?_⟩,
    fun _ _ => Members.has_iff, Keyed.ofList_toList, fun _ => mem_ofMachines_iff,
    fun m hlast hnot => ⟨has_eq_false_of_last hlast hnot, fun _ => has_of_managed⟩⟩
  · exact s.filter_filter q q'
  · rw [Keyed.filter_filter, Keyed.filter_filter]
    exact Keyed.filter_congr fun m _ => Bool.and_comm ..

/-- A member that is listed a second time without an owner is dropped. -/
theorem disowned_member_is_dropped :
    let p := Sample.controlPlane "cp" 2
    let machine (name : String) : Machine := Sample.machine (.ofSeconds Sample.epoch) p name
      (some "az-1") (.ofSeconds Sample.epoch)
    let disowned : Machine := { machine "cp-a" with
      metadata := { (machine "cp-a").metadata with ownerReferences := none } }
    let machines := [machine "cp-a", machine "cp-b", disowned]
    let s : Scope := .ofMachines p (Sample.cluster Sample.clusterName ["az-1"]) machines
    p.manages (machine "cp-a") = true ∧ disowned.IsLastIn machines ∧
      p.manages disowned = false ∧ s.members.has (machine "cp-a") = false ∧
      Members.has (.ofList (machines.filter p.manages)) disowned = true ∧
      machine "cp-b" ∈ s.members.toList := by
  intro p machine disowned machines s
  have hmanaged (name : String) : p.manages (machine name) = true := rfl
  have hlast : disowned.IsLastIn machines := ⟨[machine "cp-a", machine "cp-b"], [], rfl, by simp⟩
  have hlast' : (machine "cp-b").IsLastIn machines :=
    ⟨[machine "cp-a"], [disowned], rfl, by decide⟩
  obtain ⟨-, -, -, -, hmem, hdropped⟩ := members_are_last_listed machines p
    (Sample.cluster Sample.clusterName ["az-1"])
  obtain ⟨hgone, hfound⟩ := hdropped disowned hlast rfl
  exact ⟨hmanaged "cp-a", hlast, rfl, hgone,
    hfound (machine "cp-a") List.mem_cons_self rfl (hmanaged "cp-a"),
    (hmem (machine "cp-b")).mpr ⟨hlast', hmanaged "cp-b"⟩⟩

end Scope

end Roster
