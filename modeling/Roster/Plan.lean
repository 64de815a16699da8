/-
Roster.Plan — the one step that brings a control plane closer to its
specification, and what to do after it.
-/
import Roster.Scope

namespace Roster

/-- A step. -/
inductive Plan where
  /-- Create the first member. -/
  | found
  /-- Add a member. -/
  | grow
  /-- Remove a member, an outdated one first if there is a rollout. -/
  | shrink (rollout : Bool)
  /-- The membership is as specified. -/
  | stable
  deriving DecidableEq, Repr

/-- The step for a control plane.  As long as members are outdated, it grows
by one before an outdated member is removed, so that a rollout never
takes it below its size. -/
def Scope.plan (s : Scope) : Plan :=
  let actual := s.members.size
  if actual = 0 then (if 0 < s.desired then .found else .stable)
  else if !s.outdated.isEmpty then
    (if actual ≤ s.desired then .grow else .shrink true)
  else if actual < s.desired then .grow
  else if s.desired < actual then .shrink false
  else .stable

/-- How long to wait, in milliseconds, before looking again. -/
structure Backoff where
  /-- While a member is being deleted. -/
  deletion : Nat
  /-- While members are unhealthy. -/
  unhealthy : Nat
  /-- When the next step should follow right away. -/
  soon : Nat
  /-- After a failure that may pass. -/
  failure : Nat
  deriving DecidableEq, Repr

/-- The usual times. -/
def Backoff.usual : Backoff := ⟨30000, 15000, 1000, 5000⟩

/-- How a step ended. -/
inductive Outcome where
  /-- There is nothing to do until something changes. -/
  | done
  /-- Another step should follow right away. -/
  | soon
  /-- Look again after so many milliseconds. -/
  | after (ms : Nat)
  deriving DecidableEq, Repr

/-- When a control plane is to be looked at again. -/
inductive Action where
  /-- When something changes. -/
  | await
  /-- After so many milliseconds, or when something changes. -/
  | requeue (ms : Nat)
  deriving DecidableEq, Repr

/-- The action after a step. -/
def Outcome.action (backoff : Backoff) : Outcome → Action
  | .done => .await
  | .soon => .requeue backoff.soon
  | .after ms => .requeue ms

/-- The action after a failure: what cannot pass by itself is not tried
again. -/
def Error.action (backoff : Backoff) (e : Error) : Action :=
  if e.isRetryable then .requeue backoff.failure else .await

end Roster
