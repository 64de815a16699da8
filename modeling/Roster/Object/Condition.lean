/-
Roster.Object.Condition — observations about an object, each of one type.

A list of conditions is meant to hold one entry per type; `Condition.find?`
and `Condition.set` work on the first entry of a type.  Setting a
condition to the status it already has keeps the time at which it got
there.
-/
import Roster.Object.Metadata

namespace Roster

/-- Whether an observation holds. -/
inductive ConditionStatus where
  | holds
  | fails
  | unknown
  deriving DecidableEq, Repr

namespace ConditionStatus

/-- The statuses and their words. -/
def words : List (String × ConditionStatus) :=
  [("True", .holds), ("False", .fails), ("Unknown", .unknown)]

/-- The word for a status. -/
def word : ConditionStatus → String
  | .holds => "True"
  | .fails => "False"
  | .unknown => "Unknown"

end ConditionStatus

/-- How bad it is that an observation fails. -/
inductive Severity where
  | error
  | warning
  | info
  deriving DecidableEq, Repr

namespace Severity

/-- The severities and their words. -/
def words : List (String × Severity) :=
  [("Error", .error), ("Warning", .warning), ("Info", .info)]

/-- The word for a severity. -/
def word : Severity → String
  | .error => "Error"
  | .warning => "Warning"
  | .info => "Info"

end Severity

/-- An observation about an object. -/
structure Condition where
  type : String
  status : ConditionStatus
  /-- Only a failing condition has a severity by convention. -/
  severity : Option Severity
  reason : Option String
  message : Option String
  /-- When the status last changed. -/
  since : Option Instant
  deriving DecidableEq, Repr

namespace Condition

/-! ## Making conditions -/

/-- A condition that holds since `now`. -/
def holding (now : Instant) (type : String) : Condition :=
  ⟨type, .holds, none, none, none, some now⟩

/-- A condition that fails since `now`. -/
def failing (now : Instant) (type reason : String) (severity : Severity) (message : String) :
    Condition :=
  ⟨type, .fails, some severity, some reason, some message, some now⟩

/-- A condition of which nothing is known since `now`. -/
def unknown (now : Instant) (type reason message : String) : Condition :=
  ⟨type, .unknown, none, some reason, some message, some now⟩

/-- Whether the condition holds. -/
def isTrue (c : Condition) : Bool := c.status == .holds

/-! ## Lists of conditions -/

/-- The first condition of a type. -/
def find? (type : String) (cs : List Condition) : Option Condition :=
  cs.find? fun c => c.type == type

/-- Put `c` in the place of the first condition of its type, or at the end.
The time of an unchanged status is kept. -/
def set (c : Condition) : List Condition → List Condition
  | [] => [c]
  | old :: rest =>
    if old.type = c.type then
      (if old.status = c.status then { c with since := old.since } else c) :: rest
    else old :: set c rest

/-! ## Text form -/

/-- The fields of a condition. -/
def fields : List String :=
  ["type", "status", "severity", "reason", "message", "lastTransitionTime"]

/-- Read a condition. -/
def decode : Decoder Condition := fun d => do
  let field ← d.record? fields
  let type ← Decode.required Decode.text (field "type")
  let status ← Decode.required (Decode.word ConditionStatus.words) (field "status")
  let severity ← Decode.optional (Decode.word Severity.words) (field "severity")
  let reason ← Decode.optional Decode.text (field "reason")
  let message ← Decode.optional Decode.text (field "message")
  let since ← Decode.optional Instant.decode (field "lastTransitionTime")
  return ⟨type, status, severity, reason, message, since⟩

/-- Write a condition. -/
def encode (c : Condition) : Json :=
  .object (always "type" (.text c.type) ++ always "status" (.text c.status.word) ++
    whenSome "severity" (fun s => .text s.word) c.severity ++
    whenSome "reason" .text c.reason ++ whenSome "message" .text c.message ++
    whenSome "lastTransitionTime" (fun t => .text t.render) c.since)

end Condition

end Roster
