/-
Roster.Pass — one pass over a control plane: operations on a store and
reports, in order.

A pass ends with a value, with an error, or is aborted because a name
could not be generated.  Whatever was done to the store and reported
until then stays.
-/
import Roster.Event
import Roster.Store.Basic

namespace Roster

/-- Why a pass ended without a value. -/
inductive Halt where
  /-- An operation failed. -/
  | failed (error : Error)
  /-- A name could not be generated. -/
  | aborted

/-- A store and the reports made so far. -/
structure Journal (σ : Type) where
  store : σ
  /-- The reports, in the order they were made. -/
  events : List Event

/-- A pass over a store with states in `σ`. -/
abbrev Pass (σ α : Type) := ExceptT Halt (StateM (Journal σ)) α

namespace Pass

variable {σ α : Type}

/-- Operate on the store. -/
def call (op : Call σ α) : Pass σ α := fun journal =>
  match op journal.store with
  | (.ok a, store) => (.ok a, { journal with store := store })
  | (.error e, store) => (.error (.failed e), { journal with store := store })

/-- Report. -/
def publish (event : Event) : Pass σ Unit := fun journal =>
  (.ok (), { journal with events := journal.events ++ [event] })

/-- Fail. -/
def fail (e : Error) : Pass σ α := fun journal => (.error (.failed e), journal)

/-- Take the value of something that is already decided. -/
def decided : Except Halt α → Pass σ α
  | .ok a => fun journal => (.ok a, journal)
  | .error halt => fun journal => (.error halt, journal)

/-- Go on after a failure; an aborted pass stays aborted. -/
def attempt (pass : Pass σ α) : Pass σ (Except Error α) := fun journal =>
  match pass journal with
  | (.ok a, journal) => (.ok (.ok a), journal)
  | (.error (.failed e), journal) => (.ok (.error e), journal)
  | (.error .aborted, journal) => (.error .aborted, journal)

/-- Say what was being attempted when a failure happens. -/
def inContext (message : String) (pass : Pass σ α) : Pass σ α := fun journal =>
  match pass journal with
  | (.error (.failed e), journal) => (.error (.failed (e.wrap message)), journal)
  | ended => ended

end Pass

end Roster
