/-
Roster.Provision.Blueprint — the three objects of a new member, before
they are created: the infrastructure object cloned from a template, the
settings its node starts from, and the machine that ties them together.

All three carry the labels of the control plane's members.  The machine
is managed by the control plane; the other two only belong to it, so that
the machine can take them over later.
-/
import Roster.GeneratedName
import Roster.Pass
import Roster.Scope

namespace Roster

/-- The random suffixes of the names of a new member's objects. -/
structure Draws where
  infrastructure : Suffix
  bootstrap : Suffix
  machine : Suffix

namespace Scope

/-- A name made from a stem, a dash and a suffix. -/
def freshName (stem : String) (suffix : Suffix) : Except Halt String :=
  match GeneratedName.make? (stem ++ "-") suffix with
  | some name => .ok name
  | none => .error .aborted

/-- The owner reference of a member's object. -/
def owner (s : Scope) (controller : Bool) : Except Halt OwnerReference :=
  match s.controlPlane.ownerReference? controller with
  | some r => .ok r
  | none =>
    .error (.failed (.internal "provisioner"
      ("control plane " ++ s.name ++ " has no name or uid")))

/-- The texts among the entries of an object; other entries, and what is no
object, give none. -/
def textEntries : Option Json → Dict String
  | some (.object entries) =>
    .ofList (entries.filterMap fun entry => entry.2.text?.map fun text => (entry.1, text))
  | _ => .empty

/-- The ending of the names of template kinds. -/
def templateEnding : String := "Template"

/-- The kind that a kind of template describes. -/
def clonedKind? (kind : String) : Option String :=
  (Text.dropSuffix? kind templateEnding).filter fun stem => !Text.isEmpty stem

/-- The object that a template describes.  It takes the template's inner
specification, and the texts among its inner labels and annotations under
those of a member and of a clone. -/
def infrastructureClone (s : Scope) (suffix : Suffix) (templateRef : Reference)
    (template : Unstructured) : Except Halt Unstructured := do
  let resource := templateRef.describe
  let some inner := (template.data.lookup "spec").bind (Json.get? "template")
    | .error (.failed (.validation resource "template has no spec.template"
        (some "spec.template")))
  let some kind := clonedKind? templateRef.kind
    | .error (.failed (.validation resource
        ("kind " ++ templateRef.kind ++ " does not end in " ++ templateEnding) none))
  let name ← freshName templateRef.name suffix
  let owner ← s.owner false
  return {
    kind := some ⟨templateRef.apiVersion, kind⟩
    metadata := { Metadata.named name with
      ns := some s.ns
      labels := some ((textEntries (inner.path? ["metadata", "labels"])).insertAll
        (Labels.ofMember s.clusterName).toList)
      annotations := some ((textEntries (inner.path? ["metadata", "annotations"])).insertAll
        [(Labels.clonedFromName, templateRef.name),
          (Labels.clonedFromGroupKind, templateRef.objectKind.qualifiedName)])
      ownerReferences := some [owner] }
    data := .ofList [("spec", (inner.get? "spec").getD .emptyObject)] }

/-- The settings of a new member's node. -/
def bootstrapConfig (s : Scope) (suffix : Suffix) (agentConfig : AgentConfig) :
    Except Halt BootstrapConfig := do
  let name ← freshName s.name suffix
  let owner ← s.owner false
  return {
    metadata := { Metadata.named name with
      ns := some s.ns
      labels := some (Labels.ofMember s.clusterName)
      ownerReferences := some [owner] }
    agentConfig := agentConfig }

/-- The machine of a new member.  It runs the version of the release asked
for and records the server settings it is made from. -/
def newMachine (s : Scope) (suffix : Suffix) (infrastructure bootstrap : Reference)
    (failureDomain : Option String) : Except Halt Machine := do
  let name ← freshName s.name suffix
  let owner ← s.owner true
  let spec := s.controlPlane.spec
  return {
    metadata := { Metadata.named name with
      ns := some s.ns
      labels := some (Labels.ofMember s.clusterName)
      ownerReferences := some [owner]
      annotations := some (.ofList [(Labels.serverConfiguration, spec.serverConfig.snapshot)]) }
    spec := {
      clusterName := s.clusterName
      bootstrap := ⟨some bootstrap, none⟩
      infrastructureRef := infrastructure
      version := some (Release.version spec.version)
      failureDomain := failureDomain
      nodeDrainTimeout := spec.nodeDrainTimeout }
    status := none }

end Scope

end Roster
