/-
Roster.Object.ControlPlane — the object that says how many machines run
the control plane of a cluster, which release they run and with which
settings.
-/
import Roster.Error
import Roster.Object.Condition
import Roster.Object.Configuration
import Roster.Object.Reference
import Roster.Object.Subject
import Roster.Object.Typed

namespace Roster

/-! ## Specification -/

/-- What a control plane should be. -/
structure ControlPlaneSpec where
  /-- The number of members; one when it is not given. -/
  replicas : Option Int32
  /-- The release to run. -/
  version : String
  agentConfig : AgentConfig
  serverConfig : ServerConfig
  /-- The template that the machines behind new members are cloned from. -/
  infrastructureRef : Reference
  /-- How long a node may take to drain before its machine is deleted. -/
  nodeDrainTimeout : Option String

namespace ControlPlaneSpec

/-- The number of members asked for. -/
def desiredReplicas (s : ControlPlaneSpec) : Int32 := s.replicas.getD 1

/-- What is wrong with a specification, if anything: the first rule it
breaks. -/
def fault? (name : String) (s : ControlPlaneSpec) : Option Error :=
  if s.desiredReplicas < 0 then
    some (.validation name "replicas cannot be negative" (some "spec.replicas"))
  else if Text.isBlankText s.version then
    some (.validation name "version cannot be empty" (some "spec.version"))
  else if Text.isEmpty s.infrastructureRef.kind || Text.isEmpty s.infrastructureRef.name then
    some (.validation name "infrastructure template must have a kind and a name"
      (some "spec.infrastructureRef"))
  else none

/-- The fields of a specification. -/
def fields : List String :=
  ["replicas", "version", "agentConfig", "serverConfig", "infrastructureRef", "nodeDrainTimeout"]

/-- Read a specification. -/
def decode : Decoder ControlPlaneSpec := fun d => do
  let field ← d.record? fields
  let replicas ← Decode.optional Decode.int32 (field "replicas")
  let version ← Decode.required Decode.text (field "version")
  let agentConfig ← Decode.defaulted .empty AgentConfig.decode (field "agentConfig")
  let serverConfig ← Decode.defaulted .empty ServerConfig.decode (field "serverConfig")
  let infrastructureRef ← Decode.required Reference.decode (field "infrastructureRef")
  let nodeDrainTimeout ← Decode.optionalText (field "nodeDrainTimeout")
  return ⟨replicas, version, agentConfig, serverConfig, infrastructureRef, nodeDrainTimeout⟩

/-- Write a specification. -/
def encode (s : ControlPlaneSpec) : Json :=
  .object (whenSome "replicas" (fun n => .int n.toInt) s.replicas ++
    always "version" (.text s.version) ++ always "agentConfig" s.agentConfig.encode ++
    always "serverConfig" s.serverConfig.encode ++
    always "infrastructureRef" s.infrastructureRef.encode ++
    whenSome "nodeDrainTimeout" .text s.nodeDrainTimeout)

end ControlPlaneSpec

/-! ## Status -/

/-- What a control plane was last seen to be. -/
structure ControlPlaneStatus where
  /-- The generation of the specification this status answers. -/
  observedGeneration : Option Int64
  /-- The number of members. -/
  replicas : Int32
  /-- The number of members that match the specification. -/
  updatedReplicas : Int32
  /-- The number of healthy members. -/
  readyReplicas : Int32
  /-- The number of members that are not healthy. -/
  unavailableReplicas : Int32
  /-- Whether a member was ever healthy. -/
  initialized : Bool
  /-- Whether a member is healthy. -/
  ready : Bool
  conditions : List Condition
  deriving DecidableEq, Repr

namespace ControlPlaneStatus

/-- The status of a control plane of which nothing was seen yet. -/
def empty : ControlPlaneStatus := ⟨none, 0, 0, 0, 0, false, false, []⟩

/-- The fields of a status. -/
def fields : List String :=
  ["observedGeneration", "replicas", "updatedReplicas", "readyReplicas", "unavailableReplicas",
    "initialized", "ready", "conditions"]

/-- Read a status. -/
def decode : Decoder ControlPlaneStatus := fun d => do
  let field ← d.record? fields
  let observedGeneration ← Decode.optional Decode.int64 (field "observedGeneration")
  let replicas ← Decode.defaulted 0 Decode.int32 (field "replicas")
  let updatedReplicas ← Decode.defaulted 0 Decode.int32 (field "updatedReplicas")
  let readyReplicas ← Decode.defaulted 0 Decode.int32 (field "readyReplicas")
  let unavailableReplicas ← Decode.defaulted 0 Decode.int32 (field "unavailableReplicas")
  let initialized ← Decode.flag (field "initialized")
  let ready ← Decode.flag (field "ready")
  let conditions ← Decode.defaulted [] (Decode.list Condition.decode) (field "conditions")
  return ⟨observedGeneration, replicas, updatedReplicas, readyReplicas, unavailableReplicas,
    initialized, ready, conditions⟩

/-- Write a status. -/
def encode (s : ControlPlaneStatus) : Json :=
  .object (whenSome "observedGeneration" (fun n => .int n.toInt) s.observedGeneration ++
    always "replicas" (.int s.replicas.toInt) ++
    always "updatedReplicas" (.int s.updatedReplicas.toInt) ++
    always "readyReplicas" (.int s.readyReplicas.toInt) ++
    always "unavailableReplicas" (.int s.unavailableReplicas.toInt) ++
    always "initialized" (.bool s.initialized) ++ always "ready" (.bool s.ready) ++
    whenNonempty "conditions" Condition.encode s.conditions)

end ControlPlaneStatus

/-! ## The object -/

/-- A control plane. -/
abbrev ControlPlane := Typed ControlPlaneSpec ControlPlaneStatus

namespace ControlPlane

/-- Read a control plane. -/
def decode : Decoder ControlPlane :=
  Typed.decodeWith ControlPlaneSpec.decode ControlPlaneStatus.decode

/-- Write a control plane. -/
def encode (p : ControlPlane) : Json :=
  p.encodeWith Kind.controlPlane ControlPlaneSpec.encode ControlPlaneStatus.encode

/-- What events about a control plane refer to. -/
def subject (p : ControlPlane) : Subject := .ofObject Kind.controlPlane p.metadata

/-- The owner reference that makes an object belong to a control plane. -/
def ownerReference? (p : ControlPlane) (controller : Bool) : Option OwnerReference :=
  p.metadata.ownerReference? Kind.controlPlane controller

end ControlPlane

end Roster
