/-
Roster.Object.Kind — kinds of objects and where the API server keeps
them.

A kind is named by an API version, `group/version` or a bare version for
the core group, and by its own name.  Objects of a kind are served under
the lower-case plural of the name, which `plural` derives from spelling
alone.
-/
import Roster.Text.Lowercase

namespace Roster

/-- A kind of object. -/
structure Kind where
  /-- The API version, with the group in front where there is one. -/
  apiVersion : String
  /-- The name of the kind. -/
  name : String
  deriving DecidableEq, Repr

namespace Kind

/-- Group and version of an API version.  The core group is empty. -/
def splitApiVersion (apiVersion : String) : String × String :=
  match Text.splitFirst? '/' apiVersion.toList with
  | some (group, version) => (String.ofList group, String.ofList version)
  | none => ("", apiVersion)

/-- The group of a kind, empty for the core group. -/
def group (k : Kind) : String := (splitApiVersion k.apiVersion).1

/-- The version of a kind within its group. -/
def version (k : Kind) : String := (splitApiVersion k.apiVersion).2

/-- Names whose plural does not follow from their last letters. -/
def irregularPlurals : List (String × String) :=
  [("endpoints", "endpoints"), ("ingress", "ingresses"), ("networkpolicy", "networkpolicies")]

/-- The plural of a lower-case name. -/
def pluralOf (lower : String) : String :=
  match irregularPlurals.lookup lower with
  | some plural => plural
  | none =>
    if Text.endsWith lower "s" || Text.endsWith lower "ch" || Text.endsWith lower "sh" then
      lower ++ "es"
    else
      match Text.dropSuffix? lower "y" with
      | some stem =>
        if Text.endsWith stem "a" || Text.endsWith stem "e" then lower ++ "s" else stem ++ "ies"
      | none => lower ++ "s"

/-- The lower-case plural under which objects of a kind are served. -/
def plural (k : Kind) : String := pluralOf (Text.lowercase k.name)

/-- Kind and group in one word; the core group is left out. -/
def qualifiedName (k : Kind) : String :=
  if Text.isEmpty k.group then k.name else k.name ++ "." ++ k.group

/-! ## The kinds this library reads and writes -/

/-- A replicated set of machines that run the control plane of a cluster. -/
def controlPlane : Kind := ⟨"controlplane.cluster.x-k8s.io/v1alpha1", "RKE2ControlPlane"⟩

/-- The settings a machine's node starts from. -/
def bootstrapConfig : Kind := ⟨"bootstrap.cluster.x-k8s.io/v1alpha1", "RKE2Config"⟩

/-- A machine that becomes a node of a cluster. -/
def machine : Kind := ⟨"cluster.x-k8s.io/v1beta1", "Machine"⟩

/-- A cluster of machines. -/
def cluster : Kind := ⟨"cluster.x-k8s.io/v1beta1", "Cluster"⟩

end Kind

end Roster
