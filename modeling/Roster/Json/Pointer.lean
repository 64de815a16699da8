/-
Roster.Json.Pointer — places inside a value, and values put over others
(RFC 6901 and RFC 7386).

A pointer is empty or a sequence of tokens, each behind a slash, in which
`~1` stands for a slash and `~0` for a tilde.  A patch is merged into a
value key by key: null removes, an object merges, anything else replaces.
-/
import Roster.Json.Value
import Roster.Keyed
import Roster.Text.Basic

namespace Roster.Json

/-! ## Pointers -/

/-- A token with its escapes resolved. -/
def unescapeToken : List Char → List Char
  | '~' :: '1' :: rest => '/' :: unescapeToken rest
  | '~' :: '0' :: rest => '~' :: unescapeToken rest
  | c :: rest => c :: unescapeToken rest
  | [] => []

/-- The tokens of a pointer; nothing when it does not start with a slash. -/
def pointerTokens? (pointer : String) : Option (List String) :=
  match pointer.toList with
  | [] => some []
  | '/' :: rest => some ((Text.parts '/' rest).map fun part => String.ofList (unescapeToken part))
  | _ => none

/-- A place in a list: digits without a leading zero. -/
def index? (token : String) : Option Nat :=
  match token.toList with
  | [] => none
  | ['0'] => some 0
  | '0' :: _ => none
  | cs =>
    if cs.all Char.isDigit then some (cs.foldl (fun n c => n * 10 + (c.toNat - 48)) 0) else none

/-- The value at a place given by tokens. -/
def at? : List String → Json → Option Json
  | [], j => some j
  | token :: rest, .object entries =>
    ((Json.object entries).get? token).bind (at? rest)
  | token :: rest, .list items => (index? token).bind fun i => items[i]?.bind (at? rest)
  | _ :: _, _ => none

/-- The value a pointer leads to. -/
def pointer? (pointer : String) (j : Json) : Option Json :=
  (pointerTokens? pointer).bind fun tokens => at? tokens j

/-! ## Merging -/

/-- The entries of an object; anything else counts as an empty object. -/
def entriesOrNone : Json → List (String × Json)
  | .object entries => entries
  | _ => []

mutual

/-- Merge a patch into a value. -/
def merge (target : Json) : Json → Json
  | .object patches =>
    .object (mergeEntries (.ofList target.entriesOrNone : Dict Json) patches).toList
  | replacement => replacement

/-- Merge the entries of a patch into those of an object, one after the
other. -/
def mergeEntries (target : Dict Json) : List (String × Json) → Dict Json
  | [] => target
  | (key, .null) :: rest => mergeEntries (target.erase key) rest
  | (key, patch) :: rest =>
    mergeEntries (target.put key (merge ((target.lookup key).getD .null) patch)) rest

end

end Roster.Json
