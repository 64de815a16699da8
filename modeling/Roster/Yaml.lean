/-
Roster.Yaml — values as YAML in block style.

Entries of objects stand on lines of their own, and the items of a list
stand under its key without being moved in.  A text is written plain if
that reads back as the text, as a literal block if it has several lines,
and else in single quotes.
-/
import Roster.Decimal.Shortest
import Roster.Json.Value
import Roster.Text.Basic

namespace Roster.Yaml

/-- Words that read as something else than a text in one reader or another. -/
def reservedWords : List String :=
  ["true", "True", "TRUE", "false", "False", "FALSE", "null", "Null", "NULL", "~", "",
    "y", "Y", "yes", "Yes", "YES", "n", "N", "no", "No", "NO", "on", "On", "ON", "off", "Off",
    "OFF"]

/-- Whether a character of a number may start a text. -/
def startsLikeNumber : List Char → Bool
  | '+' :: c :: _ => c.isDigit || c == '.'
  | '-' :: c :: _ => c.isDigit || c == '.'
  | '.' :: c :: _ => c.isDigit
  | c :: _ => c.isDigit
  | [] => false

/-- Whether a text may be read as a number. -/
def looksLikeNumber (cs : List Char) : Bool :=
  startsLikeNumber cs &&
    cs.all fun c => c.isAlphanum || c == '+' || c == '-' || c == '.' || c == '_'

/-- Characters that mean something at the start of a value. -/
def indicators : List Char :=
  ['-', '?', ':', ',', '[', ']', '\x7b', '\x7d', '#', '&', '*', '!', '|', '>', '\'', '"', '%',
    '@', '\x60']

/-- Whether a text can start without a quote. -/
def startsPlain : List Char → Bool
  | c :: next :: _ =>
    if c == '-' || c == '?' || c == ':' then !Text.isBlank next
    else !indicators.contains c && !Text.isBlank c
  | [c] => !indicators.contains c && !Text.isBlank c
  | [] => false

/-- Whether a text goes on without anything that would end a plain value. -/
def continuesPlain : List Char → Bool
  | ':' :: ' ' :: _ => false
  | [':'] => false
  | ' ' :: '#' :: _ => false
  | [' '] => false
  | _ :: rest => continuesPlain rest
  | [] => true

/-- Whether a text of one line reads back from its plain form. -/
def isPlain (s : String) : Bool :=
  let cs := s.toList
  !reservedWords.contains s && !looksLikeNumber cs && startsPlain cs && continuesPlain cs

/-- A text in single quotes, the quotes inside it written twice. -/
def singleQuoted (s : String) : String :=
  String.ofList ('\'' :: s.toList.flatMap (fun c => if c = '\'' then ['\'', '\''] else [c]) ++
    ['\''])

/-- A text of one line. -/
def lineText (s : String) : String := if isPlain s then s else singleQuoted s

/-- A line moved in by two; an empty line stays empty. -/
def indent (line : String) : String := if Text.isEmpty line then line else "  " ++ line

/-- Lines as the item of a list. -/
def item : List String → List String
  | [] => []
  | line :: rest => ("- " ++ line) :: rest.map indent

/-- An entry of an object: its key, and its value on the same line or below. -/
def entry (key : String) : Bool × List String → List String
  | (true, lines) => (lineText key ++ ":") :: lines
  | (false, [line]) => [lineText key ++ ": " ++ line]
  | (false, line :: rest) => (lineText key ++ ": " ++ line) :: rest.map indent
  | (false, []) => []

mutual

/-- The lines of a value, and whether they stand below its key. -/
def block : Json → Bool × List String
  | .null => (false, ["null"])
  | .bool true => (false, ["true"])
  | .bool false => (false, ["false"])
  | .number (.int n) => (false, [String.ofList (Decimal.ofInt n)])
  | .number (.double bits) => (false, [String.ofList (Decimal.renderDouble bits)])
  | .text s =>
    if s.toList.contains '\n' then (false, "|-" :: Text.lines s) else (false, [lineText s])
  | .list [] => (false, ["[]"])
  | .list (j :: js) => (true, item (block j).2 ++ itemLines js)
  | .object [] => (false, ["\x7b\x7d"])
  | .object ((key, j) :: es) =>
    (true, (entryLines key j ++ objectLines es))

/-- The lines of an entry of an object. -/
def entryLines (key : String) : Json → List String
  | .object [] => entry key (false, ["\x7b\x7d"])
  | .object ((inner, j) :: es) =>
    entry key (true, (entryLines inner j ++ objectLines es).map indent)
  | j => entry key (block j)

/-- The lines of the items of a list. -/
def itemLines : List Json → List String
  | [] => []
  | j :: js => item (block j).2 ++ itemLines js

/-- The lines of the entries of an object. -/
def objectLines : List (String × Json) → List String
  | [] => []
  | (key, j) :: es => entryLines key j ++ objectLines es

end

/-- The lines of a document. -/
def lines (j : Json) : List String := (block j).2

/-- A document, each line ended. -/
def render (j : Json) : String := String.join ((lines j).map (· ++ "\n"))

end Roster.Yaml
