/-
Roster.Main — the controller as a program.
-/
import Roster.Operator
import Std.Time.DateTime.Timestamp

namespace Roster.Main

/-- The variables of the environment that the controller looks at, as far as
they are set. -/
def environment : IO (List (String × String)) :=
  CommandLine.sources.filterMapM fun name => do
    return (← IO.getEnv name).map fun value => (name, value)

/-- The moment it is. -/
def now : IO Instant := do
  let t ← Std.Time.Timestamp.now
  let nanoseconds := t.toNanosecondsSinceUnixEpoch.val
  return ⟨nanoseconds / 1000000000, (nanoseconds % 1000000000).toNat⟩

end Roster.Main

/-- Run the controller. -/
def main (words : List String) : IO UInt32 := do
  let ending := Roster.Operator.run (← Roster.Main.now) (← Roster.Main.environment) words
  for line in ending.output do IO.println line
  IO.eprint (ending.complaint.getD "")
  return ending.status.toUInt32
