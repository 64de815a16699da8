/-
Roster.Text.Quoted — a text between quotes, on one line.

Quotes and backslashes are escaped, the common controls have short
escapes, every other character that would not show is spelled as its
code point in braces, and the rest stands as it is.
-/
import Roster.Json.Token
import Roster.Text.Basic
import Roster.Text.HiddenTable

namespace Roster.Text

/-- A character inside a quoted text. -/
def quoteChar (c : Char) : List Char :=
  if c = '"' then ['\\', '"']
  else if c = '\\' then ['\\', '\\']
  else if c = '\n' then ['\\', 'n']
  else if c = '\r' then ['\\', 'r']
  else if c = '\t' then ['\\', 't']
  else if c.toNat = 0 then ['\\', '0']
  else if 32 ≤ c.toNat ∧ c.toNat < 127 then [c]
  else if inBlocks hiddenBlocks c.toNat then
    ['\\', 'u', '\x7b'] ++ (Nat.toDigits 16 c.toNat) ++ ['\x7d']
  else [c]

/-- A text between quotes. -/
def quoted (s : String) : String :=
  String.ofList ('"' :: (s.toList.flatMap quoteChar ++ ['"']))

end Roster.Text
