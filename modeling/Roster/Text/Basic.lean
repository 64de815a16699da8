/-
Roster.Text.Basic — character classes and small operations on text.
-/
import Roster.Text.DigitTable

namespace Roster.Text

/-- Whether a code point lies in one of the blocks. -/
def inBlocks (blocks : List (Nat × Nat)) (n : Nat) : Bool :=
  blocks.any fun (first, last) => first ≤ n && n ≤ last

/-- A decimal digit of any script. -/
def isDigit (c : Char) : Bool := inBlocks digitBlocks c.toNat

/-- White space: the separators, the plain controls that move the print
position, and the next-line control. -/
def isBlank (c : Char) : Bool :=
  let n := c.toNat
  (9 ≤ n && n ≤ 13) || n == 0x20 || n == 0x85 || n == 0xA0 || n == 0x1680 ||
    (0x2000 ≤ n && n ≤ 0x200A) || n == 0x2028 || n == 0x2029 || n == 0x202F ||
    n == 0x205F || n == 0x3000

/-- An ASCII letter or digit. -/
def isAlphanumeric (c : Char) : Bool :=
  ('a' ≤ c && c ≤ 'z') || ('A' ≤ c && c ≤ 'Z') || ('0' ≤ c && c ≤ '9')

/-- Whether a text holds nothing but white space. -/
def isBlankText (s : String) : Bool := s.toList.all isBlank

/-- Whether a text is empty. -/
def isEmpty (s : String) : Bool := s.toList.isEmpty

theorem isBlankText_iff {s : String} :
    isBlankText s = true ↔ ∀ c ∈ s.toList, isBlank c = true := List.all_eq_true

theorem isEmpty_iff {s : String} : isEmpty s = true ↔ s = "" := by
  rw [isEmpty, List.isEmpty_iff, String.toList_eq_nil_iff]

/-- Whether `s` ends with `suffix`. -/
def endsWith (s suffix : String) : Bool := suffix.toList.isSuffixOf s.toList

/-- What is left of `s` in front of `suffix`, if it ends with it. -/
def dropSuffix? (s suffix : String) : Option String :=
  if endsWith s suffix then
    some (String.ofList (s.toList.take (s.toList.length - suffix.toList.length)))
  else none

/-- The parts of a text around the first `c`, if there is one. -/
def splitFirst? (c : Char) : List Char → Option (List Char × List Char)
  | [] => none
  | d :: rest =>
    if d = c then some ([], rest)
    else (splitFirst? c rest).map fun (before, after) => (d :: before, after)

/-- The parts of a text around the last `c`, if there is one. -/
def splitLast? (c : Char) : List Char → Option (List Char × List Char)
  | [] => none
  | d :: rest =>
    match splitLast? c rest with
    | some (before, after) => some (d :: before, after)
    | none => if d = c then some ([], rest) else none

/-- The parts of a text between the separators `c`, one more than there are
separators. -/
def parts (c : Char) : List Char → List (List Char)
  | [] => [[]]
  | d :: rest =>
    if d = c then [] :: parts c rest
    else
      match parts c rest with
      | [] => [[d]]
      | first :: others => (d :: first) :: others

/-- The texts of a list with `separator` between them. -/
def join (separator : String) : List String → String
  | [] => ""
  | [s] => s
  | s :: rest => s ++ separator ++ join separator rest

/-- The lines of a text: each line ends at a line feed, a carriage return
before it does not belong to the line, and a last line may go without. -/
def lines (s : String) : List String :=
  let rec cut : List Char → List Char → List String
    | [], [] => []
    | [], line => [finish line]
    | '\n' :: rest, line => finish line :: cut rest []
    | c :: rest, line => cut rest (c :: line)
  cut s.toList []
where
  /-- A line from its characters in reverse. -/
  finish : List Char → String
    | '\r' :: rest => String.ofList rest.reverse
    | line => String.ofList line.reverse

end Roster.Text
