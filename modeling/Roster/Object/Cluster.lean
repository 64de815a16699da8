/-
Roster.Object.Cluster — clusters, as far as placing members needs them.
-/
import Roster.Object.Configuration
import Roster.Object.Reference
import Roster.Object.Typed

namespace Roster

/-- What a cluster should be. -/
structure ClusterSpec where
  /-- Whether the cluster is to be left alone. -/
  paused : Bool
  controlPlaneRef : Option Reference
  infrastructureRef : Option Reference
  deriving DecidableEq, Repr

namespace ClusterSpec

/-- A specification that leaves everything open. -/
def empty : ClusterSpec := ⟨false, none, none⟩

/-- The fields of a specification. -/
def fields : List String := ["paused", "controlPlaneRef", "infrastructureRef"]

/-- Read a specification. -/
def decode : Decoder ClusterSpec := fun d => do
  let field ← d.record? fields
  let paused ← Decode.flag (field "paused")
  let controlPlaneRef ← Decode.optional Reference.decode (field "controlPlaneRef")
  let infrastructureRef ← Decode.optional Reference.decode (field "infrastructureRef")
  return ⟨paused, controlPlaneRef, infrastructureRef⟩

/-- Write a specification. -/
def encode (s : ClusterSpec) : Json :=
  .object (whenTrue "paused" s.paused ++
    whenSome "controlPlaneRef" Reference.encode s.controlPlaneRef ++
    whenSome "infrastructureRef" Reference.encode s.infrastructureRef)

end ClusterSpec

/-- A failure domain of a cluster. -/
structure FailureDomain where
  /-- Whether members of the control plane may be placed in it. -/
  controlPlane : Bool
  attributes : Dict String
  deriving DecidableEq

namespace FailureDomain

/-- The fields of a failure domain. -/
def fields : List String := ["controlPlane", "attributes"]

/-- Read a failure domain. -/
def decode : Decoder FailureDomain := fun d => do
  let field ← d.record? fields
  let controlPlane ← Decode.flag (field "controlPlane")
  let attributes ← Decode.defaulted .empty (Decode.dict Decode.text) (field "attributes")
  return ⟨controlPlane, attributes⟩

/-- Write a failure domain. -/
def encode (f : FailureDomain) : Json :=
  .object (always "controlPlane" (.bool f.controlPlane) ++
    (if f.attributes.isEmpty then [] else always "attributes" (Dict.encodeTexts f.attributes)))

end FailureDomain

/-- What a cluster was last seen to be. -/
structure ClusterStatus where
  /-- The failure domains of the cluster by id. -/
  failureDomains : Dict FailureDomain
  phase : Option String
  deriving DecidableEq

namespace ClusterStatus

/-- The fields of a status. -/
def fields : List String := ["failureDomains", "phase"]

/-- Read a status. -/
def decode : Decoder ClusterStatus := fun d => do
  let field ← d.record? fields
  let failureDomains ←
    Decode.defaulted .empty (Decode.dict FailureDomain.decode) (field "failureDomains")
  let phase ← Decode.optionalText (field "phase")
  return ⟨failureDomains, phase⟩

/-- Write a status. -/
def encode (s : ClusterStatus) : Json :=
  .object ((if s.failureDomains.isEmpty then []
    else always "failureDomains"
      (.object (s.failureDomains.toList.map fun entry => (entry.1, entry.2.encode)))) ++
    whenSome "phase" .text s.phase)

end ClusterStatus

/-- A cluster. -/
abbrev Cluster := Typed ClusterSpec ClusterStatus

namespace Cluster

/-- Read a cluster. -/
def decode : Decoder Cluster := Typed.decodeWith ClusterSpec.decode ClusterStatus.decode

/-- Write a cluster. -/
def encode (c : Cluster) : Json :=
  c.encodeWith Kind.cluster ClusterSpec.encode ClusterStatus.encode

/-- The ids of the failure domains that members may be placed in, in
ascending order. -/
def domains (c : Cluster) : List String :=
  match c.status with
  | some status =>
    (status.failureDomains.toList.filter fun entry => entry.2.controlPlane).map Prod.fst
  | none => []

end Cluster

end Roster
