/-
Roster.Members.Basic — sets of machines, one per identity.

The members of a control plane are looked at in the order of their
identities, namespace first.  A set built from a list keeps the last
machine of every identity.
-/
import Roster.Object.Machine

namespace Roster

/-- What tells machines apart. -/
structure Identity where
  ns : String
  name : String
  deriving DecidableEq, Repr, Inhabited

/-- By namespace, then by name. -/
instance : Ord Identity := ⟨compareLex (compareOn Identity.ns) (compareOn Identity.name)⟩

instance : Std.TransOrd Identity :=
  inferInstanceAs (Std.TransCmp (compareLex (compareOn Identity.ns) (compareOn Identity.name)))

/-- Namespace and name with a slash between them. -/
def Identity.text (i : Identity) : String := i.ns ++ "/" ++ i.name

/-- The identity of a machine. -/
def Machine.identity (m : Machine) : Identity := ⟨m.ns, m.name⟩

/-- A set of machines, one per identity. -/
abbrev Members := Keyed Machine.identity

/-- The first of the least values of a list. -/
def leastBy? {α : Type} (order : α → α → Ordering) : List α → Option α
  | [] => none
  | a :: rest =>
    match leastBy? order rest with
    | none => some a
    | some b => if order b a = .lt then some b else some a

namespace Members

/-- The names of the members. -/
def names (s : Members) : List String := s.toList.map Machine.name

/-- The identities of the members. -/
def identities (s : Members) : List Identity := s.toList.map Machine.identity

/-- Whether a machine of the same identity is a member. -/
def has (s : Members) (m : Machine) : Bool := s.contains m.identity

/-- The members of which the deletion was requested. -/
def deleting (s : Members) : Members := s.filter Machine.isDeleting

/-- The members in a failure domain, or those in none. -/
def inDomain (s : Members) (domain : Option String) : Members :=
  s.filter fun m => m.failureDomain == domain

/-! ## Counting by failure domain -/

/-- Count one more of `domain`. -/
def tally (counts : Dict Nat) (domain : String) : Dict Nat :=
  counts.put domain ((counts.lookup domain).getD 0 + 1)

/-- How many members each failure domain holds; domains without members are
not listed, members without a domain are not counted. -/
def histogram (s : Members) : Dict Nat :=
  (s.toList.filterMap Machine.failureDomain).foldl tally .empty

/-- How many members a failure domain holds. -/
def countIn (counts : Dict Nat) (domain : String) : Nat := (counts.lookup domain).getD 0

/-- The better of the best domain so far and another one: the other one has
to hold members, and more of them. -/
def fuller (counts : Dict Nat) (best : Option String) (domain : String) : Option String :=
  let n := countIn counts domain
  match best with
  | none => if 0 < n then some domain else none
  | some b => if countIn counts b < n then some domain else some b

/-- The candidate that holds the most members, the first one of several.  A
candidate without members does not count. -/
def fullestDomain (s : Members) (candidates : List String) : Option String :=
  candidates.foldl (fuller s.histogram) none

/-- Fewer members first, then by id. -/
def emptierFirst (counts : Dict Nat) (a b : String) : Ordering :=
  (compare (countIn counts a) (countIn counts b)).then (compare a b)

/-- The candidate that holds the fewest members, of several the one with the
least id. -/
def emptiestDomain (s : Members) (candidates : List String) : Option String :=
  leastBy? (emptierFirst s.histogram) candidates

/-! ## Age -/

/-- Earlier creation first, no creation time before any, then by name. -/
def olderFirst (a b : Machine) : Ordering :=
  (compare a.metadata.creationTimestamp b.metadata.creationTimestamp).then
    (compare a.name b.name)

/-- The member that was created first, of several the first by name. -/
def oldest? (s : Members) : Option Machine := leastBy? olderFirst s.toList

end Members

end Roster
