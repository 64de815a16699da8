/-
Roster.Decimal.Reading — whole numbers read from decimal digits.

A plus sign may stand in front.  Reading goes from left to right and ends
at the first character that is no digit, or as soon as the number exceeds
the limit.
-/
namespace Roster.Decimal

/-- Why a text is no number. -/
inductive Misread where
  | empty
  | strayCharacter
  | tooLarge
  deriving DecidableEq, Repr

/-- A misreading in words. -/
def Misread.message : Misread → String
  | .empty => "cannot parse integer from empty string"
  | .strayCharacter => "invalid digit found in string"
  | .tooLarge => "number too large to fit in target type"

/-- The value of a digit. -/
def digitValue? (c : Char) : Option Nat := if c.isDigit then some (c.toNat - 48) else none

/-- Read the digits that follow a number. -/
def readOn (limit : Nat) : Nat → List Char → Except Misread Nat
  | n, [] => .ok n
  | n, c :: rest =>
    match digitValue? c with
    | none => .error .strayCharacter
    | some d => if limit < n * 10 + d then .error .tooLarge else readOn limit (n * 10 + d) rest

/-- Read a number up to a limit. -/
def read (limit : Nat) : List Char → Except Misread Nat
  | [] => .error .empty
  | ['+'] => .error .strayCharacter
  | '+' :: rest => readOn limit 0 rest
  | cs => readOn limit 0 cs

end Roster.Decimal
