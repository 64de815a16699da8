/-
Roster.Manifest.Schema — schemas of fields, as the API server takes them.

A schema is the dictionary of its attributes, so that whatever is added
last counts and the text form is in order.
-/
import Roster.Json.Value
import Roster.Keyed

namespace Roster

/-- A schema: attributes by name. -/
abbrev Schema := Dict Json

namespace Schema

/-- A schema as a value. -/
def json (s : Schema) : Json := .object s.toList

/-- A schema of a basic type. -/
def ofType (name : String) : Schema := .ofList [("type", .text name)]

/-- A text. -/
def text : Schema := ofType "string"

/-- A truth value. -/
def flag : Schema := ofType "boolean"

/-- A moment. -/
def time : Schema := text.put "format" (.text "date-time")

/-- One of some words. -/
def word (words : List String) : Schema := text.put "enum" (Json.texts words)

/-- A signed integer of 32 bits. -/
def int32 : Schema := (ofType "integer").put "format" (.text "int32")

/-- A signed integer of 64 bits. -/
def int64 : Schema := (ofType "integer").put "format" (.text "int64")

/-- A list. -/
def listOf (item : Schema) : Schema := (ofType "array").put "items" item.json

/-- A map from text. -/
def mapOf (value : Schema) : Schema := (ofType "object").put "additionalProperties" value.json

/-- A schema with a description. -/
def about (description : String) (s : Schema) : Schema := s.put "description" (.text description)

/-- A schema that admits null. -/
def nullable (s : Schema) : Schema := s.put "nullable" (.bool true)

/-- A schema with a value for when there is none. -/
def byDefault (value : Json) (s : Schema) : Schema := s.put "default" value

/-- A field of a record. -/
structure Field where
  name : String
  schema : Schema
  required : Bool

/-- A field that has to be there. -/
def required (name description : String) (s : Schema) : Field := ⟨name, s.about description, true⟩

/-- A field that may be left out. -/
def loose (name description : String) (s : Schema) : Field := ⟨name, s.about description, false⟩

/-- A field that may be left out or null. -/
def optional (name description : String) (s : Schema) : Field :=
  loose name description s.nullable

/-- A field that takes a value when it is left out. -/
def defaulted (name description : String) (value : Json) (s : Schema) : Field :=
  loose name description (s.byDefault value)

/-- A record.  The names of the fields that have to be there are listed in
order, if there are any. -/
def record (fields : List Field) : Schema :=
  let properties : Dict Json := .ofList (fields.map fun f => (f.name, f.schema.json))
  let names : Dict Unit := .ofList ((fields.filter Field.required).map fun f => (f.name, ()))
  let s := (ofType "object").put "properties" (.object properties.toList)
  if names.isEmpty then s
  else s.put "required" (Json.texts (names.toList.map Prod.fst))

end Schema

end Roster
