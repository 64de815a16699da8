/-
Roster.Object.Unstructured — objects of any kind: metadata, and all other
fields as they are.

The kind is read from the fields `apiVersion` and `kind`, which count
only together.  A field that was looked at for the kind is not kept as
data, even when no kind came of it; looking stops at the first field
that cannot belong to a kind.
-/
import Roster.Object.Metadata
import Roster.Object.Reference

namespace Roster

/-- An object of any kind. -/
structure Unstructured where
  /-- The kind of the object, if it says so. -/
  kind : Option Kind
  metadata : Metadata
  /-- All other fields. -/
  data : Dict Json

namespace Unstructured

/-- What is known about a kind while its two fields are being looked for. -/
structure Sighting where
  apiVersion : Option String
  kind : Option String

/-- Look for the kind among the fields of an object in order.  Returns the
kind, if both fields are there, and the fields that were not used up. -/
def sight (seen : Sighting) : List (String × Json) → Option Kind × List (String × Json)
  | [] =>
    match seen.apiVersion, seen.kind with
    | some apiVersion, some kind => (some ⟨apiVersion, kind⟩, [])
    | _, _ => (none, [])
  | (key, value) :: rest =>
    if key = "apiVersion" then
      match seen.apiVersion, value with
      | none, .text s => sight { seen with apiVersion := some s } rest
      | _, _ => (none, rest)
    else if key = "kind" then
      match seen.kind, value with
      | none, .text s => sight { seen with kind := some s } rest
      | _, _ => (none, rest)
    else
      let (kind, left) := sight seen rest
      (kind, (key, value) :: left)

/-- The metadata of an object: empty when the field is missing, refused when
it occurs twice. -/
def decodeMetadata (entries : List (Option String × Document)) : Option Metadata :=
  match entries.filter fun e => e.1 == some "metadata" with
  | [] => some .empty
  | [(_, d)] => Metadata.decode d
  | _ => none

/-- Read an object of any kind. -/
def decode : Decoder Unstructured
  | .object entries => do
    let metadata ← decodeMetadata entries
    let fields ← Document.keepEntries? 1 (entries.filter fun e => e.1 != some "metadata")
    let (kind, data) := sight ⟨none, none⟩ fields
    return ⟨kind, metadata, .ofList data⟩
  | _ => none

/-- Write an object of any kind. -/
def encode (o : Unstructured) : Json :=
  .object ((match o.kind with
    | some kind => always "apiVersion" (.text kind.apiVersion) ++ always "kind" (.text kind.name)
    | none => []) ++ always "metadata" o.metadata.encode ++ o.data.toList)

/-- The name of an object, or the stem of the name it will get. -/
def displayName (o : Unstructured) : String := o.metadata.displayName

/-- The namespace of an object, empty when it has none. -/
def ns (o : Unstructured) : String := o.metadata.namespaceText

/-- The name of an object's kind, empty when it has none. -/
def kindName (o : Unstructured) : String :=
  match o.kind with
  | some kind => kind.name
  | none => ""

/-- A reference to an object; nothing when it does not say its kind. -/
def reference? (o : Unstructured) : Option Reference :=
  o.kind.map fun kind =>
    ⟨kind.apiVersion, kind.name, o.metadata.ns, o.metadata.name.getD "", o.metadata.uid⟩

end Unstructured

end Roster
