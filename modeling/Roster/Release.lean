/-
Roster.Release — releases of a distribution and the versions they carry.

A release is spelled `v<major>.<minor>.<patch>+<distribution>r<number>`:
the three counts and the number are decimal digits of any script, the
distribution is ASCII letters and digits.  The version it carries is the
part in front of the plus.  Any other text is taken for a version itself.
-/
import Roster.Text.Basic

namespace Roster.Release

/-- One digit or more and nothing else. -/
def isCount (cs : List Char) : Bool := !cs.isEmpty && cs.all Text.isDigit

/-- One ASCII letter or digit or more and nothing else. -/
def isDistribution (cs : List Char) : Bool := !cs.isEmpty && cs.all Text.isAlphanumeric

/-- Three counts with points between them. -/
def isThreeCounts (cs : List Char) : Bool :=
  match Text.splitFirst? '.' cs with
  | some (major, rest) =>
    match Text.splitFirst? '.' rest with
    | some (minor, patch) => isCount major && isCount minor && isCount patch
    | none => false
  | none => false

/-- A version: three counts behind a v. -/
def isVersion : List Char → Bool
  | 'v' :: rest => isThreeCounts rest
  | _ => false

/-- A distribution with its number.  The number holds no r, so the last r
divides them. -/
def isBuild (cs : List Char) : Bool :=
  match Text.splitLast? 'r' cs with
  | some (distribution, number) => isDistribution distribution && isCount number
  | none => false

/-- The version in front of the plus of a release. -/
def version? (release : String) : Option String :=
  match Text.splitFirst? '+' release.toList with
  | some (version, build) =>
    if isVersion version && isBuild build then some (String.ofList version) else none
  | none => none

/-- The version a release carries; a text of another form stands for itself. -/
def version (release : String) : String := (version? release).getD release

end Roster.Release
