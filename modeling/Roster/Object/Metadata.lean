/-
Roster.Object.Metadata — what the API server keeps about every object:
names, labels, annotations, owners and times.

Metadata is read leniently (a null counts as missing, and of a repeated
field the last one counts) and its times are written with whole seconds.
-/
import Roster.Json.Decode
import Roster.Object.Kind
import Roster.Time.Rfc3339

namespace Roster

/-- Read an instant. -/
def Instant.decode : Decoder Instant := fun d => do Instant.read? (← Decode.text d)

/-- An object that another object belongs to. -/
structure OwnerReference where
  apiVersion : String
  blockOwnerDeletion : Option Bool
  /-- Whether the owner manages the object; an object has one such owner at
  most. -/
  controller : Option Bool
  kind : String
  name : String
  uid : String
  deriving DecidableEq, Repr

namespace OwnerReference

/-- Read an owner reference. -/
def decode : Decoder OwnerReference := fun d => do
  let field ← d.looseRecord?
  let apiVersion ← Decode.loose Decode.text (field "apiVersion")
  let block ← Decode.loose Decode.bool (field "blockOwnerDeletion")
  let controller ← Decode.loose Decode.bool (field "controller")
  let kind ← Decode.loose Decode.text (field "kind")
  let name ← Decode.loose Decode.text (field "name")
  let uid ← Decode.loose Decode.text (field "uid")
  return ⟨apiVersion.getD "", block, controller, kind.getD "", name.getD "", uid.getD ""⟩

/-- Write an owner reference. -/
def encode (r : OwnerReference) : Json :=
  .object (always "apiVersion" (.text r.apiVersion) ++
    whenSome "blockOwnerDeletion" .bool r.blockOwnerDeletion ++
    whenSome "controller" .bool r.controller ++ always "kind" (.text r.kind) ++
    always "name" (.text r.name) ++ always "uid" (.text r.uid))

end OwnerReference

/-- A record of who last wrote which fields of an object. -/
structure ManagedField where
  apiVersion : Option String
  fieldsType : Option String
  fieldsV1 : Option Json
  manager : Option String
  operation : Option String
  subresource : Option String
  time : Option Instant
  deriving Repr

namespace ManagedField

/-- How many containers stand around the set of fields of a record, from the
object on whose metadata holds it. -/
def nesting : Nat := 4

/-- Read a record of an object that stands inside `outer` containers. -/
def decodeWithin (outer : Nat) : Decoder ManagedField := fun d => do
  let field ← d.looseRecord?
  let apiVersion ← Decode.loose Decode.text (field "apiVersion")
  let fieldsType ← Decode.loose Decode.text (field "fieldsType")
  let fieldsV1 ← Decode.loose (Document.keepAt? (outer + nesting)) (field "fieldsV1")
  let manager ← Decode.loose Decode.text (field "manager")
  let operation ← Decode.loose Decode.text (field "operation")
  let subresource ← Decode.loose Decode.text (field "subresource")
  let time ← Decode.loose Instant.decode (field "time")
  return ⟨apiVersion, fieldsType, fieldsV1, manager, operation, subresource, time⟩

/-- Write a record. -/
def encode (m : ManagedField) : Json :=
  .object (whenSome "apiVersion" .text m.apiVersion ++ whenSome "fieldsType" .text m.fieldsType ++
    whenSome "fieldsV1" id m.fieldsV1 ++ whenSome "manager" .text m.manager ++
    whenSome "operation" .text m.operation ++ whenSome "subresource" .text m.subresource ++
    whenSome "time" (fun t => .text t.renderSeconds) m.time)

end ManagedField

/-- A map from text to text, as a value. -/
def Dict.encodeTexts (d : Dict String) : Json :=
  .object (d.toList.map fun entry => (entry.1, .text entry.2))

/-- What the API server keeps about an object. -/
structure Metadata where
  annotations : Option (Dict String)
  creationTimestamp : Option Instant
  deletionGracePeriodSeconds : Option Int64
  /-- When the deletion of the object was requested. -/
  deletionTimestamp : Option Instant
  finalizers : Option (List String)
  generateName : Option String
  /-- The number of the specification, counted up by every change of it. -/
  generation : Option Int64
  labels : Option (Dict String)
  managedFields : Option (List ManagedField)
  name : Option String
  ns : Option String
  ownerReferences : Option (List OwnerReference)
  resourceVersion : Option String
  selfLink : Option String
  uid : Option String
  deriving Inhabited

namespace Metadata

/-- Metadata that says nothing. -/
def empty : Metadata :=
  ⟨none, none, none, none, none, none, none, none, none, none, none, none, none, none, none⟩

/-- Metadata that gives a name only. -/
def named (name : String) : Metadata := { empty with name := some name }

/-- Read the metadata of an object that stands inside `outer` containers. -/
def decodeWithin (outer : Nat) : Decoder Metadata := fun d => do
  let field ← d.looseRecord?
  let annotations ← Decode.loose (Decode.dict Decode.text) (field "annotations")
  let creation ← Decode.loose Instant.decode (field "creationTimestamp")
  let grace ← Decode.loose Decode.int64 (field "deletionGracePeriodSeconds")
  let deletion ← Decode.loose Instant.decode (field "deletionTimestamp")
  let finalizers ← Decode.loose (Decode.list Decode.text) (field "finalizers")
  let generateName ← Decode.loose Decode.text (field "generateName")
  let generation ← Decode.loose Decode.int64 (field "generation")
  let labels ← Decode.loose (Decode.dict Decode.text) (field "labels")
  let managedFields ←
    Decode.loose (Decode.list (ManagedField.decodeWithin outer)) (field "managedFields")
  let name ← Decode.loose Decode.text (field "name")
  let ns ← Decode.loose Decode.text (field "namespace")
  let owners ← Decode.loose (Decode.list OwnerReference.decode) (field "ownerReferences")
  let resourceVersion ← Decode.loose Decode.text (field "resourceVersion")
  let selfLink ← Decode.loose Decode.text (field "selfLink")
  let uid ← Decode.loose Decode.text (field "uid")
  return ⟨annotations, creation, grace, deletion, finalizers, generateName, generation, labels,
    managedFields, name, ns, owners, resourceVersion, selfLink, uid⟩

/-- Read the metadata of an object that stands alone. -/
def decode : Decoder Metadata := decodeWithin 0

/-- Write metadata. -/
def encode (m : Metadata) : Json :=
  .object (whenSome "annotations" Dict.encodeTexts m.annotations ++
    whenSome "creationTimestamp" (fun t => .text t.renderSeconds) m.creationTimestamp ++
    whenSome "deletionGracePeriodSeconds" (fun n => .int n.toInt) m.deletionGracePeriodSeconds ++
    whenSome "deletionTimestamp" (fun t => .text t.renderSeconds) m.deletionTimestamp ++
    whenSome "finalizers" Json.texts m.finalizers ++
    whenSome "generateName" .text m.generateName ++
    whenSome "generation" (fun n => .int n.toInt) m.generation ++
    whenSome "labels" Dict.encodeTexts m.labels ++
    whenSome "managedFields" (fun l => .list (l.map ManagedField.encode)) m.managedFields ++
    whenSome "name" .text m.name ++ whenSome "namespace" .text m.ns ++
    whenSome "ownerReferences" (fun l => .list (l.map OwnerReference.encode)) m.ownerReferences ++
    whenSome "resourceVersion" .text m.resourceVersion ++
    whenSome "selfLink" .text m.selfLink ++ whenSome "uid" .text m.uid)

/-! ## Reading off what is needed -/

/-- The name, or the stem the API server makes one from, or nothing. -/
def displayName (m : Metadata) : String :=
  match m.name with
  | some name => name
  | none => m.generateName.getD ""

/-- The namespace, empty when there is none. -/
def namespaceText (m : Metadata) : String := m.ns.getD ""

/-- The value of an annotation. -/
def annotation? (m : Metadata) (key : String) : Option String :=
  m.annotations.bind fun dict => dict.lookup key

/-- The value of a label. -/
def label? (m : Metadata) (key : String) : Option String :=
  m.labels.bind fun dict => dict.lookup key

/-- The owners, none when they are not listed. -/
def owners (m : Metadata) : List OwnerReference := m.ownerReferences.getD []

/-- Whether the object of a kind with a uid manages the object. -/
def isControlledBy (m : Metadata) (kind uid : String) : Bool :=
  m.owners.any fun r => r.controller == some true && r.kind == kind && r.uid == uid

/-- The name of the first owner of a kind. -/
def ownerName? (m : Metadata) (kind : String) : Option String :=
  (m.owners.find? fun r => r.kind == kind).map OwnerReference.name

/-- An owner reference to an object of a kind; nothing when the object has
no name or no uid yet.  A managing owner also blocks its own deletion
until the object is gone. -/
def ownerReference? (m : Metadata) (kind : Kind) (controller : Bool) : Option OwnerReference :=
  match m.name, m.uid with
  | some name, some uid =>
    let flag := if controller then some true else none
    some ⟨kind.apiVersion, flag, flag, kind.name, name, uid⟩
  | _, _ => none

end Metadata

end Roster
