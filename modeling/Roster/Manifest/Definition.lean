/-
Roster.Manifest.Definition — what tells the API server about the kinds of
objects that this library reads and writes.
-/
import Roster.Manifest.Records

namespace Roster

/-- A column of a listing. -/
structure Column where
  name : String
  type : String
  path : String

/-- A kind of object as it is made known to the API server. -/
structure Definition where
  kind : Kind
  shortNames : List String
  columns : List Column
  spec : Schema
  status : Option Schema

namespace Definition

/-- Control planes. -/
def controlPlane : Definition where
  kind := Kind.controlPlane
  shortNames := ["rcp"]
  columns := [⟨"Replicas", "integer", ".status.replicas"⟩,
    ⟨"Ready", "integer", ".status.readyReplicas"⟩, ⟨"Version", "string", ".spec.version"⟩,
    ⟨"Age", "date", ".metadata.creationTimestamp"⟩]
  spec := Manifest.controlPlaneSpec
  status := some Manifest.controlPlaneStatus

/-- The settings of nodes. -/
def bootstrapConfig : Definition :=
  ⟨Kind.bootstrapConfig, [], [], Manifest.bootstrapSpec, none⟩

/-- Machines. -/
def machine : Definition :=
  ⟨Kind.machine, [], [], Manifest.machineSpec, some Manifest.machineStatus⟩

/-- Clusters. -/
def cluster : Definition :=
  ⟨Kind.cluster, [], [], Manifest.clusterSpec, some Manifest.clusterStatus⟩

/-- The definitions of all kinds. -/
def all : List Definition := [controlPlane, bootstrapConfig, machine, cluster]

/-- The definition of a kind by its name. -/
def find? (name : String) : Option Definition := all.find? fun d => d.kind.name == name

/-- A column as a value. -/
def columnJson (c : Column) : Json :=
  .object [("jsonPath", .text c.path), ("name", .text c.name), ("type", .text c.type)]

/-- The schema of the objects of a kind. -/
def schema (d : Definition) : Schema :=
  let spec := ("spec", d.spec.json)
  let properties := match d.status with
    | some status => [spec, ("status", status.nullable.json)]
    | none => [spec]
  .ofList [
    ("description", .text ("Auto-generated derived type for " ++ d.kind.name ++
      "Spec via \x60CustomResource\x60")),
    ("properties", .object properties), ("required", Json.texts ["spec"]),
    ("title", .text d.kind.name), ("type", .text "object")]

/-- The names of a kind. -/
def names (d : Definition) : Json :=
  .object [("categories", .list []), ("kind", .text d.kind.name), ("plural", .text d.kind.plural),
    ("shortNames", Json.texts d.shortNames), ("singular", .text (Text.lowercase d.kind.name))]

/-- The one version of a kind. -/
def versionJson (d : Definition) : Json :=
  .object [("additionalPrinterColumns", .list (d.columns.map columnJson)),
    ("name", .text d.kind.version),
    ("schema", .object [("openAPIV3Schema", d.schema.json)]), ("served", .bool true),
    ("storage", .bool true),
    ("subresources", .object (if d.status.isSome then [("status", .emptyObject)] else []))]

/-- A definition as the object that the API server takes, its keys in order. -/
def manifest (d : Definition) : Json :=
  .object [("apiVersion", .text "apiextensions.k8s.io/v1"),
    ("kind", .text "CustomResourceDefinition"),
    ("metadata", .object [("name", .text (d.kind.plural ++ "." ++ d.kind.group))]),
    ("spec", .object [("group", .text d.kind.group), ("names", d.names),
      ("scope", .text "Namespaced"), ("versions", .list [d.versionJson])])]

end Definition

end Roster
