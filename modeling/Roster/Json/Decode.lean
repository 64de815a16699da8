/-
Roster.Json.Decode — reading typed values out of documents.

A decoder is a function from documents that fails with `none`.  A record
is spelled either as an object or as the list of its fields in order
(`Document.record?`); every known field may occur once, unknown fields
are skipped, and three readings say what a missing field means:
`required`, `optional` (null counts as missing) and `defaulted` (null is
refused).  A loose record (`Document.looseRecord?`) is an object only and
lets the last occurrence of a field win.
-/
import Roster.Json.Document

namespace Roster

/-- A reading of documents as values of `α`. -/
abbrev Decoder (α : Type) := Document → Option α

namespace Decode

/-! ## Scalars -/

/-- A text. -/
def text : Decoder String
  | .text s => s
  | _ => none

/-- A truth value. -/
def bool : Decoder Bool
  | .bool b => some b
  | _ => none

/-- An integer between two bounds; a double is none, whatever its value. -/
def intBetween (low high : Int) : Decoder Int
  | .number (some (.int n)) => if low ≤ n ∧ n ≤ high then some n else none
  | _ => none

/-- A signed integer of 32 bits. -/
def int32 (d : Document) : Option Int32 :=
  (intBetween (-2147483648) 2147483647 d).map Int32.ofInt

/-- A signed integer of 64 bits. -/
def int64 (d : Document) : Option Int64 :=
  (intBetween (-9223372036854775808) 9223372036854775807 d).map Int64.ofInt

/-- An unsigned integer of 16 bits. -/
def uint16 (d : Document) : Option UInt16 :=
  (intBetween 0 65535 d).map fun n => UInt16.ofNat n.toNat

/-- An unsigned integer of 32 bits. -/
def uint32 (d : Document) : Option UInt32 :=
  (intBetween 0 4294967295 d).map fun n => UInt32.ofNat n.toNat

/-- An unsigned integer of 64 bits. -/
def uint64 (d : Document) : Option Nat :=
  (intBetween 0 18446744073709551615 d).map Int.toNat

/-- One of a few words, given as a text or as an object with that word as
its only key and null as its value. -/
def word (words : List (String × α)) : Decoder α
  | .text (some s) => words.lookup s
  | .object [(some s, .null)] => words.lookup s
  | _ => none

/-! ## Containers -/

/-- Every item of a list, in order. -/
def allItems (decode : Decoder α) : List Document → Option (List α)
  | [] => some []
  | d :: ds =>
    match decode d, allItems decode ds with
    | some a, some as => some (a :: as)
    | _, _ => none

/-- A list. -/
def list (decode : Decoder α) : Decoder (List α)
  | .list items => allItems decode items
  | _ => none

/-- Every entry of an object, in the order of the text. -/
def allEntries (decode : Decoder α) :
    List (Option String × Document) → Option (List (String × α))
  | [] => some []
  | (key, d) :: es =>
    match key, decode d, allEntries decode es with
    | some key, some a, some as => some ((key, a) :: as)
    | _, _, _ => none

/-- A map from text; a repeated key keeps its last value. -/
def dict (decode : Decoder α) : Decoder (Dict α)
  | .object entries => (allEntries decode entries).map Keyed.ofList
  | _ => none

/-- A value or null. -/
def nullable (decode : Decoder α) : Decoder (Option α)
  | .null => some none
  | d => (decode d).map some

/-! ## Fields -/

/-- A field that has to be there. -/
def required (decode : Decoder α) : Option Document → Option α
  | none => none
  | some d => decode d

/-- A field that may be missing or null. -/
def optional (decode : Decoder α) : Option Document → Option (Option α)
  | none => some none
  | some d => nullable decode d

/-- A field that may be missing but not null. -/
def defaulted (fallback : α) (decode : Decoder α) : Option Document → Option α
  | none => some fallback
  | some d => decode d

end Decode

namespace Document

/-- The keys of an object's entries; nothing when one of them does not
denote. -/
def keys? : List (Option String × Document) → Option (List String)
  | [] => some []
  | (none, _) :: _ => none
  | (some key, _) :: es => (keys? es).map (key :: ·)

/-- The value of the first entry with a key. -/
def valueOf? (entries : List (Option String × Document)) (key : String) : Option Document :=
  (entries.find? fun e => e.1 == some key).map Prod.snd

/-- The fields of a record, by name.  An object may hold every field once at
most and anything else besides; a list holds the fields in order and may
stop early. -/
def record? (fields : List String) : Document → Option (String → Option Document)
  | .object entries =>
    match keys? entries with
    | none => none
    | some keys =>
      if fields.all fun f => keys.count f ≤ 1 then some (valueOf? entries) else none
  | .list items =>
    if items.length ≤ fields.length then
      some fun field => (fields.zip items).lookup field
    else none
  | _ => none

/-- The fields of a record that, spelled as a list, has to be complete. -/
def fullRecord? (fields : List String) : Document → Option (String → Option Document)
  | .list items => if items.length = fields.length then record? fields (.list items) else none
  | d => record? fields d

/-- The fields of a loose record, by name: of a repeated field all
occurrences are returned, the last one first. -/
def looseRecord? : Document → Option (String → List Document)
  | .object entries =>
    match keys? entries with
    | none => none
    | some _ =>
      some fun field =>
        (entries.filter fun e => e.1 == some field).reverse.map Prod.snd
  | _ => none

end Document

namespace Decode

/-- A field of a loose record: every occurrence must be readable, null
counts as missing, and the last occurrence wins. -/
def loose (decode : Decoder α) : List Document → Option (Option α)
  | [] => some none
  | last :: earlier =>
    match allItems (nullable decode) earlier with
    | none => none
    | some _ => nullable decode last

end Decode

end Roster
