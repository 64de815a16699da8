/-
Roster.GeneratedName — names made from a stem and a random suffix.

A name has at most 63 bytes: the stem is cut to its first 58 bytes and
five letters of a fixed alphabet follow.  A stem that has a character
across the cut cannot be used.
-/
namespace Roster

/-- The letters of suffixes: no vowels, and none that look alike. -/
def suffixLetters : List Char :=
  ['b', 'c', 'd', 'f', 'g', 'h', 'j', 'k', 'l', 'm', 'n', 'p', 'q', 'r', 's', 't', 'v', 'w', 'x',
    'z', '2', '4', '5', '6', '7', '8', '9']

/-- A draw of five letters, by their places in the alphabet. -/
structure Suffix where
  draws : Vector (Fin suffixLetters.length) 5
  deriving DecidableEq

namespace Suffix

/-- The letters of a suffix. -/
def chars (s : Suffix) : List Char := s.draws.toList.map suffixLetters.get

/-- The suffix of first letters. -/
def first : Suffix := ⟨Vector.replicate 5 ⟨0, by decide⟩⟩

end Suffix

namespace GeneratedName

/-- The most bytes a generated name may have. -/
def maxBytes : Nat := 63

/-- The number of letters in a suffix, one byte each. -/
def suffixBytes : Nat := 5

/-- The characters that make up the first `n` bytes of a text, or all of a
shorter text; nothing when a character lies across that place. -/
def takeBytes? : Nat → List Char → Option (List Char)
  | _, [] => some []
  | 0, _ :: _ => some []
  | n + 1, c :: cs =>
    if c.utf8Size ≤ n + 1 then (takeBytes? (n + 1 - c.utf8Size) cs).map (c :: ·) else none
termination_by structural _ cs => cs

/-- The name made from a stem and a suffix; nothing when the stem cannot be
cut. -/
def make? (stem : String) (suffix : Suffix) : Option String :=
  (takeBytes? (maxBytes - suffixBytes) stem.toList).map fun kept =>
    String.ofList (kept ++ suffix.chars)

end GeneratedName

end Roster
