/-
Roster.Scope — what a decision about a control plane looks at: the
control plane, its cluster, and the machines it manages, all as they were
at one moment.
-/
import Roster.Members.Filter
import Roster.Object.Cluster

namespace Roster

/-- A control plane with its cluster and its members at one moment. -/
structure Scope where
  controlPlane : ControlPlane
  cluster : Cluster
  members : Members

namespace Scope

/-- The scope of a control plane among listed machines: the last machine of
every identity, if the control plane manages it. -/
def ofMachines (p : ControlPlane) (cluster : Cluster) (machines : List Machine) : Scope :=
  ⟨p, cluster, (Keyed.ofList machines).filter p.manages⟩

/-- The name of the control plane. -/
def name (s : Scope) : String := s.controlPlane.displayName

/-- The namespace of the control plane. -/
def ns (s : Scope) : String := s.controlPlane.ns

/-- The name of the cluster. -/
def clusterName (s : Scope) : String := s.cluster.displayName

/-- What events about the control plane refer to. -/
def subject (s : Scope) : Subject := s.controlPlane.subject

/-- The number of members the control plane should have. -/
def desired (s : Scope) : Nat := s.controlPlane.spec.desiredReplicas.toInt.toNat

/-- The failure domains that members may be placed in, in ascending order. -/
def domains (s : Scope) : List String := s.cluster.domains

/-- The members that are as specified. -/
def current (s : Scope) : Members := s.members.filter s.controlPlane.isCurrent

/-- The members that are not as specified and still there to be replaced. -/
def outdated (s : Scope) : Members :=
  s.members.filter fun m => !m.isDeleting && !s.controlPlane.isCurrent m

/-- The domain for a new member: the one with the fewest members that are as
specified. -/
def nextDomain (s : Scope) : Option String := s.current.emptiestDomain s.domains

/-! ## Whom to remove -/

/-- The machines outside the domains that members may be placed in. -/
def outside (s : Scope) (among : Members) : Members := among.filter fun m => !m.isWithin s.domains

/-- The domain to take a machine from.  Machines outside the domains that
members may be placed in go first, the oldest of them leading; otherwise
it is the fullest domain. -/
def crowdedDomain (s : Scope) (among : Members) : Option String :=
  match (s.outside among).oldest? with
  | some m => m.failureDomain
  | none => among.fullestDomain s.domains

/-- The oldest machine of the domain to take one from. -/
def pick (s : Scope) (among : Members) : Except Error Machine :=
  match (among.inDomain (s.crowdedDomain among)).oldest? with
  | some m => .ok m
  | none => .error (.invariant "scale-down" "failed to pick control plane Machine to mark")

/-- The members that somebody asked to remove first. -/
def marked (among : Members) : Members := among.filter Machine.isMarked

/-- The members to choose from: outdated and marked ones if there are any,
else marked ones, else outdated ones, else all. -/
def candidates (s : Scope) (outdated : Members) : Members :=
  if !(marked outdated).isEmpty then marked outdated
  else if !(marked s.members).isEmpty then marked s.members
  else if !outdated.isEmpty then outdated
  else s.members

/-- The member to remove. -/
def select (s : Scope) (outdated : Members) : Except Error Machine :=
  s.pick (s.candidates outdated)

end Scope

end Roster
