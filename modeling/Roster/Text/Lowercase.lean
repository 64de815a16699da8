/-
Roster.Text.Lowercase — the lower case of a text.

Every character has its own lower case, with two exceptions: the dotted
capital I becomes an i with a combining dot, and a capital sigma at the
end of a word becomes the final form.
-/
import Roster.Text.Basic
import Roster.Text.CaseTable

namespace Roster.Text

/-- Whether a run holds a code point. -/
def LowerRun.holds (r : LowerRun) (n : Nat) : Bool :=
  r.first ≤ n && n ≤ r.last && (n - r.first) % r.stride == 0

/-- The lower case of a character that has one character of lower case. -/
def lowerChar (c : Char) : Char :=
  if c.toNat < 128 then c.toLower
  else
    match lowerRuns.find? (·.holds c.toNat) with
    | some r => Char.ofNat (c.toNat + r.offset).toNat
    | none => c

/-- Whether a letter follows, looking past characters that casing ignores. -/
def meetsCased (cs : List Char) : Bool :=
  match cs.dropWhile fun c => inBlocks caseIgnorableBlocks c.toNat with
  | c :: _ => inBlocks casedBlocks c.toNat
  | [] => false

/-- The lower case of the characters after `before` (in reverse). -/
def lowerFrom (before : List Char) : List Char → List Char
  | [] => []
  | c :: rest =>
    let lowered :=
      if c = 'İ' then ['i', '\u0307']
      else if c = 'Σ' then
        [if meetsCased before && !meetsCased rest then 'ς' else 'σ']
      else [lowerChar c]
    lowered ++ lowerFrom (c :: before) rest

/-- The lower case of a text. -/
def lowercase (s : String) : String := String.ofList (lowerFrom [] s.toList)

end Roster.Text
