/-
Roster.Object.Subject — what an event is about.
-/
import Roster.Object.Metadata

namespace Roster

/-- A reference to an object or a part of it, in which nothing is required. -/
structure Subject where
  apiVersion : Option String
  fieldPath : Option String
  kind : Option String
  name : Option String
  ns : Option String
  resourceVersion : Option String
  uid : Option String
  deriving DecidableEq, Repr, Inhabited

namespace Subject

/-- The subject of events about an object with the given metadata, whatever
its version. -/
def ofObject (kind : Kind) (m : Metadata) : Subject where
  apiVersion := some kind.apiVersion
  fieldPath := none
  kind := some kind.name
  name := m.name
  ns := m.ns
  resourceVersion := none
  uid := m.uid

/-- Read a subject. -/
def decode : Decoder Subject := fun d => do
  let field ← d.looseRecord?
  let apiVersion ← Decode.loose Decode.text (field "apiVersion")
  let fieldPath ← Decode.loose Decode.text (field "fieldPath")
  let kind ← Decode.loose Decode.text (field "kind")
  let name ← Decode.loose Decode.text (field "name")
  let ns ← Decode.loose Decode.text (field "namespace")
  let resourceVersion ← Decode.loose Decode.text (field "resourceVersion")
  let uid ← Decode.loose Decode.text (field "uid")
  return ⟨apiVersion, fieldPath, kind, name, ns, resourceVersion, uid⟩

/-- Write a subject. -/
def encode (s : Subject) : Json :=
  .object (whenSome "apiVersion" .text s.apiVersion ++ whenSome "fieldPath" .text s.fieldPath ++
    whenSome "kind" .text s.kind ++ whenSome "name" .text s.name ++
    whenSome "namespace" .text s.ns ++ whenSome "resourceVersion" .text s.resourceVersion ++
    whenSome "uid" .text s.uid)

end Subject

end Roster
