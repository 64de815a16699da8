/-
Roster.Json.Token — the lexical level of JSON text.

`Token.all?` cuts a text into tokens, dropping the blanks between them;
`Token.spell` writes a token in the compact spelling that the library
prints.  Reading is stricter about what is kept than about what is
skipped: a number too large for a double, and a string whose escapes
leave half a surrogate pair, are well formed but denote nothing, so
their tokens carry `none`.
-/
import Roster.Json.Value

namespace Roster

/-- A token of JSON text. -/
inductive Token where
  | openBrace
  | closeBrace
  | openBracket
  | closeBracket
  | comma
  | colon
  | null
  | bool (value : Bool)
  | number (value : Option Number)
  | text (value : Option String)
  deriving DecidableEq, Repr

/-! ## Numerals -/

/-- The parts of a number as it is spelled. -/
structure Numeral where
  /-- Whether a minus sign stands in front. -/
  negative : Bool
  /-- The digits before the point. -/
  whole : List Nat
  /-- The digits after the point, if there is one. -/
  fraction : Option (List Nat)
  /-- Sign and digits of the power of ten, if there is one. -/
  exponent : Option (Bool × List Nat)
  deriving DecidableEq, Repr

/-- The value of a decimal digit. -/
def digit? (c : Char) : Option Nat :=
  if '0' ≤ c ∧ c ≤ '9' then some (c.toNat - 48) else none

/-- The leading decimal digits of a text and what follows them. -/
def takeDigits : List Char → List Nat × List Char
  | [] => ([], [])
  | c :: rest =>
    match digit? c with
    | some d => ((takeDigits rest).1.cons d, (takeDigits rest).2)
    | none => ([], c :: rest)

namespace Numeral

/-- The exponent part of a numeral: nothing, or a mark, an optional sign and
at least one digit. -/
def takeExponent? : List Char → Option (Option (Bool × List Nat) × List Char)
  | c :: rest =>
    if c = 'e' ∨ c = 'E' then
      let (negative, digits) :=
        match rest with
        | '+' :: r => (false, takeDigits r)
        | '-' :: r => (true, takeDigits r)
        | r => (false, takeDigits r)
      if digits.1.isEmpty then none else some (some (negative, digits.1), digits.2)
    else some (none, c :: rest)
  | [] => some (none, [])

/-- The fraction part of a numeral: nothing, or a point and at least one
digit. -/
def takeFraction? : List Char → Option (Option (List Nat) × List Char)
  | '.' :: rest =>
    let digits := takeDigits rest
    if digits.1.isEmpty then none else some (some digits.1, digits.2)
  | rest => some (none, rest)

/-- The numeral at the start of a text.  A leading zero stands alone. -/
def take? (cs : List Char) : Option (Numeral × List Char) :=
  let (negative, unsigned) :=
    match cs with
    | '-' :: rest => (true, rest)
    | rest => (false, rest)
  match takeDigits unsigned with
  | ([], _) => none
  | (0 :: _ :: _, _) => none
  | (whole, afterWhole) =>
    match takeFraction? afterWhole with
    | none => none
    | some (fraction, afterFraction) =>
      match takeExponent? afterFraction with
      | none => none
      | some (exponent, rest) => some (⟨negative, whole, fraction, exponent⟩, rest)

/-- The largest integer of 64 bits. -/
def maxWord : Nat := 18446744073709551615

/-- Append digits to `acc` as long as the result fits 64 bits; the digits
that no longer fit are returned. -/
def absorb (acc : Nat) : List Nat → Nat × List Nat
  | [] => (acc, [])
  | d :: rest =>
    if acc * 10 + d ≤ maxWord then absorb (acc * 10 + d) rest else (acc, d :: rest)

/-- `f · 10^e` in double arithmetic; nothing when it overflows.  Below
`10^-308` the division is made in steps; three of them reach zero from
every 64-bit integer. -/
def scale (f : Float) (e : Int) : Option Float :=
  let power (k : Nat) : Float := Float.ofScientific 1 false k
  let rec down : Nat → Float → Nat → Float
    | 0, f, _ => f
    | steps + 1, f, k =>
      if f == 0 then f
      else if k ≤ 308 then f / power k
      else down steps (f / power 308) (k - 308)
  if 0 ≤ e then
    if e ≤ 308 then
      let r := f * power e.toNat
      if r.isInf then none else some r
    else if f == 0 then some f else none
  else some (down 4 f (-e).toNat)

/-- A double with the numeral's sign. -/
def signed (negative : Bool) (f : Float) : Number :=
  .double (if negative then -f else f).toBits

/-- The power of ten a numeral is scaled by, from the power its digits call
for; nothing when the exponent alone is 2^31 or more. -/
def power? (base : Int) : Option (Bool × List Nat) → Option Int
  | none => some base
  | some (negative, digits) =>
    let e : Nat := digits.foldl (fun acc d => acc * 10 + d) 0
    if e < 2147483648 then some (if negative then base - e else base + e) else none

/-- The number a numeral denotes.  Without point and exponent it is an
integer if 64 bits hold it.  Otherwise it is the double nearest to its
leading digits, as many as fit 64 bits, scaled by a power of ten;
nothing when that is out of range. -/
def value? (n : Numeral) : Option Number :=
  let (whole, excess) := absorb 0 n.whole
  match n.fraction, n.exponent, excess with
  | none, none, [] =>
    if n.negative then
      if whole = 0 ∨ 9223372036854775808 < whole then some (signed true whole.toUInt64.toFloat)
      else some (.int (-whole))
    else some (.int whole)
  | fraction, exponent, _ =>
    let digits := fraction.getD []
    let (significand, unread) := absorb whole digits
    let base : Int := (excess.length : Int) - ((digits.length - unread.length : Nat) : Int)
    match power? base exponent with
    | some e => (scale significand.toUInt64.toFloat e).map (signed n.negative)
    | none =>
      if significand = 0 ∨ (exponent.map Prod.fst) = some true then
        some (signed n.negative 0)
      else none

end Numeral

/-! ## Strings -/

/-- The value of a hexadecimal digit. -/
def hexDigit? (c : Char) : Option Nat :=
  if '0' ≤ c ∧ c ≤ '9' then some (c.toNat - 48)
  else if 'a' ≤ c ∧ c ≤ 'f' then some (c.toNat - 87)
  else if 'A' ≤ c ∧ c ≤ 'F' then some (c.toNat - 55)
  else none

/-- The character a short escape stands for. -/
def shortEscape? : Char → Option Char
  | '"' => some '"'
  | '\\' => some '\\'
  | '/' => some '/'
  | 'b' => some '\x08'
  | 'f' => some '\x0c'
  | 'n' => some '\n'
  | 'r' => some '\r'
  | 't' => some '\t'
  | _ => none

/-- The code units of a string up to its closing quote, and what follows it.
An unescaped control character or an unknown escape ends the reading. -/
def takeUnits? : List Char → Option (List Nat × List Char)
  | '"' :: rest => some ([], rest)
  | '\\' :: 'u' :: a :: b :: c :: d :: rest =>
    match hexDigit? a, hexDigit? b, hexDigit? c, hexDigit? d, takeUnits? rest with
    | some a, some b, some c, some d, some (units, after) =>
      some ((a * 4096 + b * 256 + c * 16 + d) :: units, after)
    | _, _, _, _, _ => none
  | '\\' :: e :: rest =>
    match shortEscape? e, takeUnits? rest with
    | some c, some (units, after) => some (c.toNat :: units, after)
    | _, _ => none
  | c :: rest =>
    if c.toNat < 32 ∨ c = '\\' then none
    else (takeUnits? rest).map fun (units, after) => (c.toNat :: units, after)
  | [] => none

/-- The first half of a surrogate pair. -/
def isHighSurrogate (u : Nat) : Bool := 0xD800 ≤ u && u ≤ 0xDBFF

/-- The second half of a surrogate pair. -/
def isLowSurrogate (u : Nat) : Bool := 0xDC00 ≤ u && u ≤ 0xDFFF

/-- The characters of a sequence of code units; nothing when half a
surrogate pair stands alone. -/
def assemble? : List Nat → Option (List Char)
  | [] => some []
  | [u] => if isHighSurrogate u || isLowSurrogate u then none else some [Char.ofNat u]
  | u :: w :: rest =>
    if isHighSurrogate u then
      if isLowSurrogate w then
        (assemble? rest).map (Char.ofNat ((u - 0xD800) * 1024 + (w - 0xDC00) + 0x10000) :: ·)
      else none
    else if isLowSurrogate u then none
    else (assemble? (w :: rest)).map (Char.ofNat u :: ·)

/-- A hexadecimal digit in lower case. -/
def hexChar (n : Nat) : Char := Char.ofNat (if n < 10 then 48 + n else 87 + n)

/-- A character as it is written inside a string: short escapes where there
are some, four hexadecimal digits for the other control characters, and
every other character as it is. -/
def escapeChar (c : Char) (rest : List Char) : List Char :=
  if c = '"' then '\\' :: '"' :: rest
  else if c = '\\' then '\\' :: '\\' :: rest
  else if c = '\n' then '\\' :: 'n' :: rest
  else if c = '\r' then '\\' :: 'r' :: rest
  else if c = '\t' then '\\' :: 't' :: rest
  else if c = '\x08' then '\\' :: 'b' :: rest
  else if c = '\x0c' then '\\' :: 'f' :: rest
  else if c.toNat < 32 then
    '\\' :: 'u' :: '0' :: '0' :: hexChar (c.toNat / 16) :: hexChar (c.toNat % 16) :: rest
  else c :: rest

/-- The inside of a string and its closing quote. -/
def escapeChars : List Char → List Char → List Char
  | [], rest => '"' :: rest
  | c :: cs, rest => escapeChar c (escapeChars cs rest)

namespace Token

/-- The blanks that may stand between tokens. -/
def isBlank (c : Char) : Bool := c == ' ' || c == '\n' || c == '\t' || c == '\r'

/-- The token at the start of a text that starts with no blank. -/
def take? : List Char → Option (Token × List Char)
  | '\x7b' :: rest => some (.openBrace, rest)
  | '\x7d' :: rest => some (.closeBrace, rest)
  | '[' :: rest => some (.openBracket, rest)
  | ']' :: rest => some (.closeBracket, rest)
  | ',' :: rest => some (.comma, rest)
  | ':' :: rest => some (.colon, rest)
  | 'n' :: 'u' :: 'l' :: 'l' :: rest => some (.null, rest)
  | 't' :: 'r' :: 'u' :: 'e' :: rest => some (.bool true, rest)
  | 'f' :: 'a' :: 'l' :: 's' :: 'e' :: rest => some (.bool false, rest)
  | '"' :: rest =>
    (takeUnits? rest).map fun (units, after) =>
      (.text ((assemble? units).map String.ofList), after)
  | cs => (Numeral.take? cs).map fun (n, after) => (.number n.value?, after)

/-- The tokens of a text, reading at most as many as `fuel`. -/
def allFrom : Nat → List Char → Option (List Token)
  | _, [] => some []
  | 0, _ :: _ => none
  | fuel + 1, c :: cs =>
    if isBlank c then allFrom fuel cs
    else
      match take? (c :: cs) with
      | none => none
      | some (t, rest) => (allFrom fuel rest).map (t :: ·)

/-- The tokens of a text.  Every token takes at least one character, so the
length of the text bounds their number. -/
def all? (cs : List Char) : Option (List Token) := allFrom cs.length cs

end Token

end Roster
