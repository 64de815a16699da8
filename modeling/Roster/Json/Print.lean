/-
Roster.Json.Print — JSON values as compact text.

A value is first laid out as tokens (`Json.tokens`) and the tokens are
then spelled one after the other without blanks (`Token.spellAll`), so
that reading can be compared with printing at either level.
-/
import Roster.Decimal.Shortest
import Roster.Json.Token

namespace Roster

/-- A number as it is printed: integers in decimal, doubles in the shortest
form that reads back. -/
def Number.spell : Number → List Char
  | .int n => Decimal.ofInt n
  | .double bits => Decimal.renderDouble bits

/-- The spelling of a token, in front of `rest`.  The two tokens that denote
nothing have a spelling each that reads back as themselves. -/
def Token.spell : Token → List Char → List Char
  | .openBrace, rest => '\x7b' :: rest
  | .closeBrace, rest => '\x7d' :: rest
  | .openBracket, rest => '[' :: rest
  | .closeBracket, rest => ']' :: rest
  | .comma, rest => ',' :: rest
  | .colon, rest => ':' :: rest
  | .null, rest => 'n' :: 'u' :: 'l' :: 'l' :: rest
  | .bool true, rest => 't' :: 'r' :: 'u' :: 'e' :: rest
  | .bool false, rest => 'f' :: 'a' :: 'l' :: 's' :: 'e' :: rest
  | .number (some n), rest => n.spell ++ rest
  | .number none, rest => '1' :: 'e' :: '9' :: '9' :: '9' :: rest
  | .text (some s), rest => '"' :: escapeChars s.toList rest
  | .text none, rest => '"' :: '\\' :: 'u' :: 'd' :: '8' :: '0' :: '0' :: '"' :: rest

/-- The tokens of a text without blanks between them. -/
def Token.spellAll : List Token → List Char
  | [] => []
  | t :: rest => t.spell (spellAll rest)

namespace Json

mutual

/-- The tokens of a value, in front of `rest`. -/
def tokens : Json → List Token → List Token
  | .null, rest => .null :: rest
  | .bool b, rest => .bool b :: rest
  | .number n, rest => .number (some n) :: rest
  | .text s, rest => .text (some s) :: rest
  | .list [], rest => .openBracket :: .closeBracket :: rest
  | .list (x :: xs), rest => .openBracket :: x.tokens (itemTokens xs (.closeBracket :: rest))
  | .object [], rest => .openBrace :: .closeBrace :: rest
  | .object ((k, v) :: es), rest =>
    .openBrace :: .text (some k) :: .colon :: v.tokens (entryTokens es (.closeBrace :: rest))

/-- The tokens of the further items of a list, each after a comma. -/
def itemTokens : List Json → List Token → List Token
  | [], rest => rest
  | x :: xs, rest => .comma :: x.tokens (itemTokens xs rest)

/-- The tokens of the further entries of an object, each after a comma. -/
def entryTokens : List (String × Json) → List Token → List Token
  | [], rest => rest
  | (k, v) :: es, rest => .comma :: .text (some k) :: .colon :: v.tokens (entryTokens es rest)

end

/-- The characters of a value's compact text. -/
def chars (j : Json) : List Char := Token.spellAll (j.tokens [])

/-- The compact text of a value. -/
def compact (j : Json) : String := String.ofList j.chars

end Json

end Roster
