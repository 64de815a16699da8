/-
Roster.Time.Rfc3339 — instants as text.

Instants are written in UTC.  `Instant.render` keeps the fraction of the
second with three, six or nine digits, as few as are exact;
`Instant.renderSeconds` leaves it out.  `Instant.read?` is generous: the
parts may be separated by white space, fields may be short, a space may
stand for the T, and the offset may be Z, UTC or hours and minutes with
either minus sign.  Second 60 is a leap second.
-/
import Roster.Decimal.Digits
import Roster.Json.Token
import Roster.Text.Basic
import Roster.Time.Instant

namespace Roster.Instant

/-! ## Writing -/

/-- A year: four digits, or a sign and at least four digits outside 0 to
9999. -/
def renderYear (y : Int) : List Char :=
  if 0 ≤ y ∧ y ≤ 9999 then Decimal.padded 4 y.toNat
  else if 0 ≤ y then '+' :: Decimal.padded 4 y.toNat
  else '-' :: Decimal.padded 4 (-y).toNat

/-- The fraction of a second, in groups of three digits. -/
def renderFraction (nanos : Nat) : List Char :=
  if nanos = 0 then []
  else if nanos % 1000000 = 0 then '.' :: Decimal.padded 3 (nanos / 1000000)
  else if nanos % 1000 = 0 then '.' :: Decimal.padded 6 (nanos / 1000)
  else '.' :: Decimal.padded 9 nanos

/-- An instant up to the whole second, without the closing Z. -/
def renderWhole (t : Instant) : List Char :=
  let d := t.date
  let s := t.secondOfDay
  let leap := if 1000000000 ≤ t.nanos then 1 else 0
  renderYear d.year ++ '-' :: Decimal.padded 2 d.month ++ '-' :: Decimal.padded 2 d.day ++
    'T' :: Decimal.padded 2 (s / 3600) ++ ':' :: Decimal.padded 2 (s / 60 % 60) ++
    ':' :: Decimal.padded 2 (s % 60 + leap)

/-- An instant with whole seconds. -/
def renderSeconds (t : Instant) : String := String.ofList (t.renderWhole ++ ['Z'])

/-- An instant with its fraction of a second. -/
def render (t : Instant) : String :=
  String.ofList (t.renderWhole ++ renderFraction (t.nanos % 1000000000) ++ ['Z'])

/-- An instant with microseconds. -/
def renderMicros (t : Instant) : String :=
  String.ofList (t.renderWhole ++
    '.' :: Decimal.padded 6 (t.nanos % 1000000000 / 1000) ++ ['Z'])

/-! ## Reading -/

/-- Drop leading white space. -/
def skipBlank (cs : List Char) : List Char := cs.dropWhile Text.isBlank

/-- The value of a list of decimal digits. -/
def valueOf (ds : List Nat) : Nat := ds.foldl (fun acc d => acc * 10 + d) 0

/-- A number of one to `width` digits, after white space. -/
def field? (width : Nat) (cs : List Char) : Option (Nat × List Char) :=
  let cs := skipBlank cs
  match (takeDigits (cs.take width)).1 with
  | [] => none
  | ds => some (valueOf ds, cs.drop ds.length)

/-- A year, after white space: up to four digits, or any number of digits
behind a sign. -/
def year? (cs : List Char) : Option (Int × List Char) :=
  let signed (negative : Bool) (rest : List Char) : Option (Int × List Char) :=
    match takeDigits rest with
    | ([], _) => none
    | (ds, rest) => some (if negative then -(valueOf ds : Int) else valueOf ds, rest)
  match skipBlank cs with
  | '-' :: rest => signed true rest
  | '+' :: rest => signed false rest
  | cs => (field? 4 cs).map fun (n, rest) => ((n : Int), rest)

/-- One character, after white space. -/
def mark? (c : Char) (cs : List Char) : Option (List Char) :=
  match skipBlank cs with
  | d :: rest => if d = c then some rest else none
  | [] => none

/-- The fraction of a second in nanoseconds: nothing, or a point and at least
one digit; digits after the ninth are dropped. -/
def fraction? : List Char → Option (Nat × List Char)
  | '.' :: rest =>
    match takeDigits rest with
    | ([], _) => none
    | (ds, rest) =>
      let kept := ds.take 9
      some (valueOf kept * Nat.pow 10 (9 - kept.length), rest)
  | cs => some (0, cs)

/-- The offset from UTC in seconds. -/
def offset? (cs : List Char) : Option (Int × List Char) :=
  let hoursMinutes (sign : Int) (rest : List Char) : Option (Int × List Char) :=
    match rest with
    | a :: b :: rest =>
      match rest.dropWhile fun c => c == ':' || Text.isBlank c with
      | c :: d :: rest =>
        match digit? a, digit? b, digit? c, digit? d with
        | some a, some b, some c, some d =>
          if c < 6 then
            some (sign * (((a * 10 + b) * 3600 + (c * 10 + d) * 60 : Nat) : Int), rest)
          else none
        | _, _, _, _ => none
      | _ => none
    | _ => none
  match cs with
  | u :: t :: c :: rest =>
    if u.toLower = 'u' ∧ t.toLower = 't' ∧ c.toLower = 'c' then some (0, rest)
    else
      match u with
      | 'Z' | 'z' => some (0, t :: c :: rest)
      | '+' => hoursMinutes 1 (t :: c :: rest)
      | '-' => hoursMinutes (-1) (t :: c :: rest)
      | '−' => hoursMinutes (-1) (t :: c :: rest)
      | _ => none
  | 'Z' :: rest => some (0, rest)
  | 'z' :: rest => some (0, rest)
  | _ => none

/-- The first and the last year that an instant may lie in. -/
def yearRange : Int × Int := (-262143, 262142)

/-- Whether an instant lies in a year that it may lie in. -/
def inRange (t : Instant) : Bool := yearRange.1 ≤ t.date.year && t.date.year ≤ yearRange.2

/-- The instant of a date and a time of day at an offset from UTC. -/
def assemble? (d : Date) (hour minute second nanos : Nat) (offset : Int) : Option Instant :=
  if d.isValid ∧ yearRange.1 ≤ d.year ∧ d.year ≤ yearRange.2 ∧
      hour ≤ 23 ∧ minute ≤ 59 ∧ second ≤ 60 ∧ -86400 < offset ∧ offset < 86400 then
    let whole := min second 59
    let t : Instant :=
      ⟨d.dayNumber * 86400 + ((hour * 3600 + minute * 60 + whole : Nat) : Int) - offset,
        nanos + if second = 60 then 1000000000 else 0⟩
    if t.inRange then some t else none
  else none

/-- The instant a text spells. -/
def readChars? (cs : List Char) : Option Instant := do
  let (year, cs) ← year? cs
  let cs ← mark? '-' cs
  let (month, cs) ← field? 2 cs
  let cs ← mark? '-' cs
  let (day, cs) ← field? 2 cs
  let cs ←
    match cs with
    | c :: rest => if c = 'T' ∨ c = 't' ∨ c = ' ' then some rest else none
    | [] => none
  let (hour, cs) ← field? 2 cs
  let cs ← mark? ':' cs
  let (minute, cs) ← field? 2 cs
  let cs ← mark? ':' cs
  let (second, cs) ← field? 2 cs
  let (nanos, cs) ← fraction? cs
  let (offset, cs) ← offset? (skipBlank cs)
  if (skipBlank cs).isEmpty then assemble? ⟨year, month, day⟩ hour minute second nanos offset
  else none

/-- The instant a text spells. -/
def read? (s : String) : Option Instant := readChars? s.toList

end Roster.Instant
