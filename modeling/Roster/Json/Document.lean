/-
Roster.Json.Document — JSON text as a tree, before anything is decoded.

A `Document` keeps what decoding may still have to judge: the order and
the repetition of keys, and the numbers and strings that denote nothing
(`none`).  Reading is a pushdown machine over tokens (`State.step`), so
`parse?` accepts exactly the texts whose tokens take the machine from a
missing value to a finished one.

`Document.keep?` turns a document into a value that is kept whole:
everything in it must denote, a repeated key keeps its last value, and
containers may be nested 127 deep.  A part that is skipped is only held
to the grammar.
-/
import Roster.Json.Print
import Roster.Keyed

namespace Roster

/-- A JSON text as a tree. -/
inductive Document where
  | null
  | bool (value : Bool)
  | number (value : Option Number)
  | text (value : Option String)
  | list (items : List Document)
  | object (entries : List (Option String × Document))
  deriving Repr, Inhabited

namespace Document

/-! ## Reading -/

/-- A container that is still open around the value being read. -/
inductive Frame where
  /-- A list with the items read so far, last one first. -/
  | items (done : List Document)
  /-- An object with the entries read so far, last one first, and the key
  whose value is being read. -/
  | entry (done : List (Option String × Document)) (key : Option String)

/-- What the reader has seen, and what may follow. -/
inductive State where
  /-- A value must follow. -/
  | value (stack : List Frame)
  /-- A list was opened: an item or its end follows. -/
  | firstItem (stack : List Frame)
  /-- After an item: a comma or the end of the list follows. -/
  | afterItem (done : List Document) (stack : List Frame)
  /-- An object was opened: a key or its end follows. -/
  | firstKey (stack : List Frame)
  /-- After a comma in an object: a key follows. -/
  | nextKey (done : List (Option String × Document)) (stack : List Frame)
  /-- After a key: a colon follows. -/
  | afterKey (done : List (Option String × Document)) (key : Option String)
      (stack : List Frame)
  /-- After an entry: a comma or the end of the object follows. -/
  | afterEntry (done : List (Option String × Document)) (stack : List Frame)
  /-- The document is complete: nothing may follow. -/
  | complete (document : Document)

/-- Hand a finished value to the innermost open container. -/
def deliver (v : Document) : List Frame → State
  | [] => .complete v
  | .items done :: stack => .afterItem (v :: done) stack
  | .entry done key :: stack => .afterEntry ((key, v) :: done) stack

/-- Begin a value with its first token. -/
def begin? (stack : List Frame) : Token → Option State
  | .null => some (deliver .null stack)
  | .bool b => some (deliver (.bool b) stack)
  | .number n => some (deliver (.number n) stack)
  | .text s => some (deliver (.text s) stack)
  | .openBracket => some (.firstItem stack)
  | .openBrace => some (.firstKey stack)
  | _ => none

/-- Read one token; nothing when it may not stand there. -/
def State.step : State → Token → Option State
  | .value stack, t => begin? stack t
  | .firstItem stack, .closeBracket => some (deliver (.list []) stack)
  | .firstItem stack, t => begin? (.items [] :: stack) t
  | .afterItem done stack, .comma => some (.value (.items done :: stack))
  | .afterItem done stack, .closeBracket => some (deliver (.list done.reverse) stack)
  | .firstKey stack, .closeBrace => some (deliver (.object []) stack)
  | .firstKey stack, .text key => some (.afterKey [] key stack)
  | .nextKey done stack, .text key => some (.afterKey done key stack)
  | .afterKey done key stack, .colon => some (.value (.entry done key :: stack))
  | .afterEntry done stack, .comma => some (.nextKey done stack)
  | .afterEntry done stack, .closeBrace => some (deliver (.object done.reverse) stack)
  | _, _ => none

/-- Read a sequence of tokens. -/
def State.run : State → List Token → Option State
  | s, [] => some s
  | s, t :: rest => (s.step t).bind fun s => run s rest

/-- The document in a state that needs nothing more. -/
def State.complete? : State → Option Document
  | .complete d => some d
  | _ => none

/-- The document a sequence of tokens spells. -/
def ofTokens? (ts : List Token) : Option Document :=
  ((State.value []).run ts).bind State.complete?

/-- The document a text spells: one value, with blanks around it at most. -/
def ofChars? (cs : List Char) : Option Document := (Token.all? cs).bind ofTokens?

/-- The document a text spells. -/
def parse? (s : String) : Option Document := ofChars? s.toList

/-! ## Values that are kept -/

/-- How many containers a kept value may stand in. -/
def maxNesting : Nat := 127

mutual

/-- The value of a document that stands inside `level` containers. -/
def keepAt? (level : Nat) : Document → Option Json
  | .null => some .null
  | .bool b => some (.bool b)
  | .number n => n.map .number
  | .text s => s.map .text
  | .list items =>
    if level < maxNesting then (keepItems? (level + 1) items).map .list else none
  | .object entries =>
    if level < maxNesting then
      (keepEntries? (level + 1) entries).map fun es => .object (Keyed.ofList es : Dict Json).toList
    else none

/-- The values of the items of a list. -/
def keepItems? (level : Nat) : List Document → Option (List Json)
  | [] => some []
  | d :: ds =>
    match keepAt? level d, keepItems? level ds with
    | some j, some js => some (j :: js)
    | _, _ => none

/-- The entries of an object, in the order of the text. -/
def keepEntries? (level : Nat) : List (Option String × Document) → Option (List (String × Json))
  | [] => some []
  | (key, d) :: es =>
    match key, keepAt? level d, keepEntries? level es with
    | some key, some j, some js => some ((key, j) :: js)
    | _, _, _ => none

end

/-- The value of a whole document. -/
def keep? (d : Document) : Option Json := keepAt? 0 d

end Document

namespace Json

mutual

/-- A value as a document: everything in it denotes. -/
def toDocument : Json → Document
  | .null => .null
  | .bool b => .bool b
  | .number n => .number (some n)
  | .text s => .text (some s)
  | .list items => .list (itemDocuments items)
  | .object entries => .object (entryDocuments entries)

/-- The items of a list as documents. -/
def itemDocuments : List Json → List Document
  | [] => []
  | j :: js => j.toDocument :: itemDocuments js

/-- The entries of an object as documents. -/
def entryDocuments : List (String × Json) → List (Option String × Document)
  | [] => []
  | (k, j) :: es => (some k, j.toDocument) :: entryDocuments es

end

/-- The value a text spells, kept whole. -/
def parse? (s : String) : Option Json := (Document.parse? s).bind Document.keep?

end Json

end Roster
