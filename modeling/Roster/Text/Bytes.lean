/-
Roster.Text.Bytes — text as bytes: hexadecimal digits and the form in
which queries are written.
-/
import Roster.Text.Basic

namespace Roster.Text

/-- The bytes of a text in UTF-8. -/
def bytes (s : String) : List UInt8 := s.toUTF8.toList

/-- A digit of base sixteen in capitals. -/
def capitalHex (n : Nat) : Char := Char.ofNat (if n < 10 then 48 + n else 55 + n)

/-- Whether a byte stands for itself in a query: ASCII letters and digits and
four marks. -/
def isPlainInQuery (b : UInt8) : Bool :=
  isAlphanumeric (Char.ofNat b.toNat) || b == 42 || b == 45 || b == 46 || b == 95

/-- A byte in a query: a space is a plus, and what does not stand for itself
is a percent sign and two digits. -/
def queryByte (b : UInt8) : List Char :=
  if isPlainInQuery b then [Char.ofNat b.toNat]
  else if b == 32 then ['+']
  else ['%', capitalHex (b.toNat / 16), capitalHex (b.toNat % 16)]

/-- A text as it is written in a query. -/
def queryText (s : String) : String := String.ofList ((bytes s).flatMap queryByte)

/-- A count in base sixteen. -/
def hexadecimal (n : Nat) : String := String.ofList (Nat.toDigits 16 n)

end Roster.Text
