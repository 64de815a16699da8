/-
Roster.Http.Target — the targets of requests as text.

A target is a path and, behind the first question mark, a query.  A number
sign ends it: what follows is for the reader of a document and is not sent.
Blanks, controls and a few marks may stand in neither part; they have to
be written as bytes in base sixteen.
-/
import Roster.Text.Bytes

namespace Roster.Http

/-- Where a request goes. -/
structure Target where
  path : String
  /-- What stands behind the question mark, if there is one. -/
  query : String
  deriving DecidableEq, Repr

namespace Target

/-- Why a text is no target. -/
inductive Fault where
  /-- It has a character that may not stand there. -/
  | badCharacter
  /-- It is too long. -/
  | tooLong
  deriving DecidableEq, Repr

/-- The wording of a fault. -/
def Fault.message : Fault → String
  | .badCharacter => "invalid uri character"
  | .tooLong => "uri too long"

/-- The most bytes a target may have. -/
def maxBytes : Nat := 65534

/-- Whether a character is neither a blank nor a control of ASCII. -/
def isVisible (c : Char) : Bool := 0x20 < c.toNat && c.toNat != 0x7F

/-- Whether a character may stand in a path. -/
def isInPath (c : Char) : Bool := isVisible c && c != '<' && c != '>' && c.toNat != 0x60

/-- Whether a character may stand in a query. -/
def isInQuery (c : Char) : Bool := isVisible c && c != '"' && c != '<' && c != '>'

/-- The target that characters spell. -/
def ofChars (cs : List Char) : Except Fault Target :=
  let (path, rest) := cs.span fun c => c != '?' && c != '#'
  let query :=
    match rest with
    | '?' :: rest => rest.takeWhile (· != '#')
    | _ => []
  if path.all isInPath && query.all isInQuery then
    .ok ⟨String.ofList path, String.ofList query⟩
  else .error .badCharacter

/-- The target a text spells. -/
def read (s : String) : Except Fault Target :=
  if maxBytes < (Text.bytes s).length then .error .tooLong else ofChars s.toList

/-- The parameters in a query: what stands between ampersands. -/
def parameters (t : Target) : List String :=
  (Text.parts '&' t.query.toList).filterMap fun cs =>
    if cs.isEmpty then none else some (String.ofList cs)

end Target

end Roster.Http
