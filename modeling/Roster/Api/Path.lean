/-
Roster.Api.Path — where the API server keeps objects.
-/
import Roster.Error
import Roster.Object.Reference

namespace Roster.Api

/-- The path of an API version; versions without a group have a root of their
own. -/
def versionPath (k : Kind) : String :=
  (if Text.isEmpty k.group then "/api/" else "/apis/") ++ k.apiVersion

/-- The path of the objects of a kind, of a namespace or of all. -/
def listPath (k : Kind) : Option String → String
  | some ns => versionPath k ++ "/namespaces/" ++ ns ++ "/" ++ k.plural
  | none => versionPath k ++ "/" ++ k.plural

/-- The path of an object, which has to have a name. -/
def objectPath (k : Kind) (ns : Option String) (name : String) : Except RequestFault String :=
  if Text.isEmpty name then .error .unnamed else .ok (listPath k ns ++ "/" ++ name)

/-- The path of the object a reference names. -/
def referencePath (r : Reference) : Except RequestFault String :=
  objectPath r.objectKind r.namespace? r.name

end Roster.Api
