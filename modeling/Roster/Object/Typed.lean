/-
Roster.Object.Typed — the common shape of objects of a known kind:
metadata, a specification and an observed status.

The kind is not read back from the object's own fields: whoever reads it
knows what was asked for.  It is written, so that the object can stand
alone.
-/
import Roster.Object.Metadata

namespace Roster

/-- An object with a specification and perhaps a status. -/
structure Typed (Spec Status : Type) where
  metadata : Metadata
  spec : Spec
  status : Option Status

namespace Typed

/-- Read an object that stands inside `outer` containers, given how to read
its parts.  Spelled as a list, no part may be left out. -/
def decodeWithin (outer : Nat) (decodeSpec : Decoder Spec) (decodeStatus : Decoder Status) :
    Decoder (Typed Spec Status) := fun d => do
  let field ← d.fullRecord? ["metadata", "spec", "status"]
  let metadata ← Decode.required (Metadata.decodeWithin outer) (field "metadata")
  let spec ← Decode.required decodeSpec (field "spec")
  let status ← Decode.optional decodeStatus (field "status")
  return ⟨metadata, spec, status⟩

/-- Read an object that stands alone, given how to read its parts. -/
def decodeWith (decodeSpec : Decoder Spec) (decodeStatus : Decoder Status) :
    Decoder (Typed Spec Status) := decodeWithin 0 decodeSpec decodeStatus

/-- Write an object of a kind, given how to write its parts. -/
def encodeWith (kind : Kind) (encodeSpec : Spec → Json) (encodeStatus : Status → Json)
    (o : Typed Spec Status) : Json :=
  .object (always "apiVersion" (.text kind.apiVersion) ++ always "kind" (.text kind.name) ++
    always "metadata" o.metadata.encode ++ always "spec" (encodeSpec o.spec) ++
    whenSome "status" encodeStatus o.status)

/-- The name of an object, or the stem of the name it will get. -/
def displayName (o : Typed Spec Status) : String := o.metadata.displayName

/-- The namespace of an object, empty when it has none. -/
def ns (o : Typed Spec Status) : String := o.metadata.namespaceText

end Typed

end Roster
