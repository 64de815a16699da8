/-
Roster.Json.Value — JSON values as the rest of the library keeps them.

A number is an integer of 64 bits, signed or unsigned, or a double; an
object is the list of its entries in the order they are written.  A
value that was read from text is in normal form: its entries ascend by
key and no key occurs twice.
-/
namespace Roster

/-- A JSON number: an integer kept exactly, or a double given by its bits. -/
inductive Number where
  /-- An integer. -/
  | int (value : Int)
  /-- A double. -/
  | double (bits : UInt64)
  deriving DecidableEq, Repr, Inhabited

/-- A JSON value. -/
inductive Json where
  | null
  | bool (value : Bool)
  | number (value : Number)
  | text (value : String)
  | list (items : List Json)
  | object (entries : List (String × Json))
  deriving Repr, Inhabited

namespace Json

/-- An integer as a value. -/
def int (n : Int) : Json := .number (.int n)

/-- A count as a value. -/
def nat (n : Nat) : Json := .int n

/-- The object without entries. -/
def emptyObject : Json := .object []

/-- The value of the entry `key` of an object; nothing else has entries. -/
def get? (key : String) : Json → Option Json
  | .object entries => (entries.find? (·.1 == key)).map Prod.snd
  | _ => none

/-- The text of a text value. -/
def text? : Json → Option String
  | .text s => some s
  | _ => none

/-- The entries of an object. -/
def entries? : Json → Option (List (String × Json))
  | .object entries => some entries
  | _ => none

/-- The items of a list. -/
def items? : Json → Option (List Json)
  | .list items => some items
  | _ => none

/-- The value reached from `j` by one key after the other. -/
def path? : List String → Json → Option Json
  | [], j => some j
  | key :: rest, j => (j.get? key).bind (path? rest)

/-- An optional value, written as null when it is missing. -/
def ofOption (encode : α → Json) : Option α → Json
  | none => .null
  | some a => encode a

mutual

/-- A value with every text in it replaced. -/
def mapTexts (f : String → String) : Json → Json
  | .null => .null
  | .bool b => .bool b
  | .number n => .number n
  | .text s => .text (f s)
  | .list items => .list (mapItemTexts f items)
  | .object entries => .object (mapEntryTexts f entries)

/-- The items of a list with every text in them replaced. -/
def mapItemTexts (f : String → String) : List Json → List Json
  | [] => []
  | j :: js => j.mapTexts f :: mapItemTexts f js

/-- The entries of an object with every text in their values replaced. -/
def mapEntryTexts (f : String → String) : List (String × Json) → List (String × Json)
  | [] => []
  | (key, j) :: es => (key, j.mapTexts f) :: mapEntryTexts f es

end

/-- A list of texts. -/
def texts (l : List String) : Json := .list (l.map .text)

end Json

/-! ## Building objects entry by entry -/

/-- One entry, always written. -/
def always (key : String) (value : Json) : List (String × Json) := [(key, value)]

/-- One entry, written only when there is a value. -/
def whenSome (key : String) (encode : α → Json) : Option α → List (String × Json)
  | none => []
  | some a => [(key, encode a)]

/-- One entry holding a list, written only when the list has items. -/
def whenNonempty (key : String) (encode : α → Json) : List α → List (String × Json)
  | [] => []
  | a :: rest => [(key, .list ((a :: rest).map encode))]

/-- One flag, written only when it is set. -/
def whenTrue (key : String) : Bool → List (String × Json)
  | false => []
  | true => [(key, .bool true)]

end Roster
