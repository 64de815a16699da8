/-
Roster.Object.Reference — references to objects of any kind.
-/
import Roster.Json.Decode
import Roster.Object.Kind

namespace Roster

/-- A reference to an object by kind, namespace and name. -/
structure Reference where
  apiVersion : String
  kind : String
  /-- The namespace of the object, for kinds that live in one. -/
  ns : Option String
  name : String
  /-- The identity the API server gave the object when it was created. -/
  uid : Option String
  deriving DecidableEq, Repr

namespace Reference

/-- A reference to nothing. -/
def empty : Reference := ⟨"", "", none, "", none⟩

/-- The kind of the object referred to. -/
def objectKind (r : Reference) : Kind := ⟨r.apiVersion, r.kind⟩

/-- The namespace of a reference, unless it is missing or empty. -/
def namespace? (r : Reference) : Option String := r.ns.filter fun ns => !Text.isEmpty ns

/-- The same reference, placed in `ns` when it names no namespace. -/
def within (r : Reference) (ns : String) : Reference :=
  if r.namespace?.isSome then r else { r with ns := some ns }

/-- A reference in words: kind, namespace where there is one, and name. -/
def describe (r : Reference) : String :=
  match r.namespace? with
  | some ns => r.kind ++ " " ++ ns ++ "/" ++ r.name
  | none => r.kind ++ " " ++ r.name

/-- The fields of a reference. -/
def fields : List String := ["apiVersion", "kind", "namespace", "name", "uid"]

/-- Read a reference. -/
def decode : Decoder Reference := fun d => do
  let field ← d.record? fields
  let apiVersion ← Decode.required Decode.text (field "apiVersion")
  let kind ← Decode.required Decode.text (field "kind")
  let ns ← Decode.optional Decode.text (field "namespace")
  let name ← Decode.required Decode.text (field "name")
  let uid ← Decode.optional Decode.text (field "uid")
  return ⟨apiVersion, kind, ns, name, uid⟩

/-- Write a reference. -/
def encode (r : Reference) : Json :=
  .object (always "apiVersion" (.text r.apiVersion) ++ always "kind" (.text r.kind) ++
    whenSome "namespace" .text r.ns ++ always "name" (.text r.name) ++
    whenSome "uid" .text r.uid)

end Reference

end Roster
