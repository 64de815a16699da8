/-
Roster.Api.Answer — reading what the API server answers.

A response with a failing status carries a status object, and the error
takes everything from it, its code included.  If the body is no status
object, the error quotes the body and takes the code of the response.
-/
import Roster.Error
import Roster.Http
import Roster.Object.Unstructured

namespace Roster.Api

/-- Read a status object as the reason of a failure. -/
def decodeFailure : Decoder ApiStatus := fun d => do
  let field ← d.record? ["status", "message", "reason", "code"]
  let status ← Decode.required Decode.text (field "status")
  let message ← Decode.defaulted "" Decode.text (field "message")
  let reason ← Decode.defaulted "" Decode.text (field "reason")
  let code ← Decode.required Decode.uint16 (field "code")
  return ⟨status, message, reason, code⟩

/-- The failure that a response with a failing status reports. -/
def failure (response : Http.Response) : ApiStatus :=
  match (Document.parse? response.body).bind decodeFailure with
  | some status => status
  | none => ⟨Http.statusText response.status, Text.quoted response.body,
      "Failed to parse error data", response.status⟩

/-- The value a response carries, given how to read it. -/
def read (decode : Decoder α) (response : Http.Response) : Except Error α :=
  if Http.isFailure response.status then .error (.api (failure response))
  else
    match (Document.parse? response.body).bind decode with
    | some a => .ok a
    | none => .error .unreadable

/-- The value a response carries, or nothing when there is no such object. -/
def readOptional (decode : Decoder α) (response : Http.Response) : Except Error (Option α) :=
  match read decode response with
  | .ok a => .ok (some a)
  | .error (.api status) => if status.reason = "NotFound" then .ok none else .error (.api status)
  | .error e => .error e

/-- An error about the object of a reference: a missing object is called by
its kind and name. -/
def located (r : Reference) : Error → Error
  | .api status => if status.code = 404 then .notFound r.kind r.name else .api status
  | e => e

/-! ## Lists -/

/-- How many containers stand around an object in a list. -/
def listNesting : Nat := 2

/-- Whether a document can be read as the metadata of a list. -/
def isListMetadata (d : Document) : Bool :=
  match d.looseRecord? with
  | none => false
  | some field =>
    (Decode.loose Decode.text (field "continue")).isSome &&
      (Decode.loose Decode.int64 (field "remainingItemCount")).isSome &&
      (Decode.loose Decode.text (field "resourceVersion")).isSome &&
      (Decode.loose Decode.text (field "selfLink")).isSome

/-- The entries of an object with a key. -/
def entriesOf (entries : List (Option String × Document)) (key : String) : List Document :=
  (entries.filter fun e => e.1 == some key).map Prod.snd

/-- Read a list of objects. -/
def decodeList (decode : Decoder α) : Decoder (List α)
  | .object entries => do
    let others := entries.filter fun e => e.1 != some "metadata" && e.1 != some "items"
    let _ ← Document.keepEntries? 1 others
    match entriesOf entries "metadata" with
    | [] => pure ()
    | [d] => if isListMetadata d then pure () else none
    | _ => none
    match entriesOf entries "items" with
    | [d] => (Decode.nullable (Decode.list decode) d).map fun items => items.getD []
    | _ => none
  | _ => none

/-! ## Deletions -/

/-- Whether a document can be read as a cause within a status object. -/
def isCause (d : Document) : Bool :=
  match d.record? ["reason", "message", "field"] with
  | none => false
  | some field =>
    (Decode.defaulted "" Decode.text (field "reason")).isSome &&
      (Decode.defaulted "" Decode.text (field "message")).isSome &&
      (Decode.defaulted "" Decode.text (field "field")).isSome

/-- Read a document for being readable only. -/
def readable (p : Document → Bool) : Decoder Unit := fun d => if p d then some () else none

/-- Whether a document can be read as the details of a status object. -/
def areDetails (d : Document) : Bool :=
  match d.record? ["name", "group", "kind", "uid", "causes", "retryAfterSeconds"] with
  | none => false
  | some field =>
    (["name", "group", "kind", "uid"].all fun key =>
      (Decode.defaulted "" Decode.text (field key)).isSome) &&
      (Decode.defaulted [] (Decode.list (readable isCause)) (field "causes")).isSome &&
      (Decode.defaulted 0 Decode.uint32 (field "retryAfterSeconds")).isSome

/-- Whether a document can be read as a status object. -/
def isStatus (d : Document) : Bool :=
  match d.record? ["status", "code", "message", "reason", "details"] with
  | none => false
  | some field =>
    (Decode.optional (Decode.word [("Success", ()), ("Failure", ())]) (field "status")).isSome &&
      (Decode.defaulted 0 Decode.uint16 (field "code")).isSome &&
      (Decode.defaulted "" Decode.text (field "message")).isSome &&
      (Decode.defaulted "" Decode.text (field "reason")).isSome &&
      (Decode.optional (readable areDetails) (field "details")).isSome

/-- Read the answer to a deletion: a status object, or the object that is
being deleted. -/
def decodeDeletion : Decoder Unit := fun d => do
  let kept ← d.keep?
  if (kept.get? "kind").any fun kind => kind.text? == some "Status" then readable isStatus d
  else (Unstructured.decode d).map fun _ => ()

end Roster.Api
