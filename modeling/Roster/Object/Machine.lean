/-
Roster.Object.Machine — machines, the members of control planes.
-/
import Roster.Object.Condition
import Roster.Object.Configuration
import Roster.Object.Reference
import Roster.Object.Typed

namespace Roster

/-- Where a machine's node takes its first settings from. -/
structure Bootstrap where
  configRef : Option Reference
  dataSecretName : Option String
  deriving DecidableEq, Repr

namespace Bootstrap

/-- No source is given. -/
def empty : Bootstrap := ⟨none, none⟩

/-- The fields of a source of settings. -/
def fields : List String := ["configRef", "dataSecretName"]

/-- Read a source of settings. -/
def decode : Decoder Bootstrap := fun d => do
  let field ← d.record? fields
  let configRef ← Decode.optional Reference.decode (field "configRef")
  let dataSecretName ← Decode.optionalText (field "dataSecretName")
  return ⟨configRef, dataSecretName⟩

/-- Write a source of settings. -/
def encode (b : Bootstrap) : Json :=
  .object (whenSome "configRef" Reference.encode b.configRef ++
    whenSome "dataSecretName" .text b.dataSecretName)

end Bootstrap

/-- What a machine should be. -/
structure MachineSpec where
  /-- The cluster the machine belongs to. -/
  clusterName : String
  bootstrap : Bootstrap
  /-- The object behind the machine. -/
  infrastructureRef : Reference
  /-- The version its node runs. -/
  version : Option String
  /-- The failure domain it is placed in. -/
  failureDomain : Option String
  nodeDrainTimeout : Option String
  deriving DecidableEq, Repr

namespace MachineSpec

/-- The fields of a specification. -/
def fields : List String :=
  ["clusterName", "bootstrap", "infrastructureRef", "version", "failureDomain",
    "nodeDrainTimeout"]

/-- Read a specification. -/
def decode : Decoder MachineSpec := fun d => do
  let field ← d.record? fields
  let clusterName ← Decode.required Decode.text (field "clusterName")
  let bootstrap ← Decode.defaulted .empty Bootstrap.decode (field "bootstrap")
  let infrastructureRef ← Decode.required Reference.decode (field "infrastructureRef")
  let version ← Decode.optionalText (field "version")
  let failureDomain ← Decode.optionalText (field "failureDomain")
  let nodeDrainTimeout ← Decode.optionalText (field "nodeDrainTimeout")
  return ⟨clusterName, bootstrap, infrastructureRef, version, failureDomain, nodeDrainTimeout⟩

/-- Write a specification. -/
def encode (s : MachineSpec) : Json :=
  .object (always "clusterName" (.text s.clusterName) ++ always "bootstrap" s.bootstrap.encode ++
    always "infrastructureRef" s.infrastructureRef.encode ++ whenSome "version" .text s.version ++
    whenSome "failureDomain" .text s.failureDomain ++
    whenSome "nodeDrainTimeout" .text s.nodeDrainTimeout)

end MachineSpec

/-- What a machine was last seen to be. -/
structure MachineStatus where
  phase : Option String
  /-- What is known about its health. -/
  conditions : List Condition
  deriving DecidableEq, Repr

namespace MachineStatus

/-- The fields of a status. -/
def fields : List String := ["phase", "conditions"]

/-- Read a status. -/
def decode : Decoder MachineStatus := fun d => do
  let field ← d.record? fields
  let phase ← Decode.optionalText (field "phase")
  let conditions ← Decode.defaulted [] (Decode.list Condition.decode) (field "conditions")
  return ⟨phase, conditions⟩

/-- Write a status. -/
def encode (s : MachineStatus) : Json :=
  .object (whenSome "phase" .text s.phase ++
    whenNonempty "conditions" Condition.encode s.conditions)

end MachineStatus

/-- A machine. -/
abbrev Machine := Typed MachineSpec MachineStatus

namespace Machine

/-- Read a machine that stands inside `outer` containers. -/
def decodeWithin (outer : Nat) : Decoder Machine :=
  Typed.decodeWithin outer MachineSpec.decode MachineStatus.decode

/-- Read a machine that stands alone. -/
def decode : Decoder Machine := decodeWithin 0

/-- Write a machine. -/
def encode (m : Machine) : Json :=
  m.encodeWith Kind.machine MachineSpec.encode MachineStatus.encode

/-- The name of a machine, empty when it has none. -/
def name (m : Machine) : String := m.metadata.name.getD ""

/-- The failure domain a machine is placed in. -/
def failureDomain (m : Machine) : Option String := m.spec.failureDomain

/-- Whether the deletion of a machine was requested. -/
def isDeleting (m : Machine) : Bool := m.metadata.deletionTimestamp.isSome

/-- The value of an annotation. -/
def annotation? (m : Machine) (key : String) : Option String := m.metadata.annotation? key

/-- What is known about the health of a machine. -/
def conditions (m : Machine) : List Condition :=
  match m.status with
  | some status => status.conditions
  | none => []

/-- The first condition of a type. -/
def condition? (m : Machine) (type : String) : Option Condition :=
  Condition.find? type m.conditions

/-- A reference to a machine. -/
def reference (m : Machine) : Reference :=
  ⟨Kind.machine.apiVersion, Kind.machine.name, m.metadata.ns, m.name, m.metadata.uid⟩

end Machine

end Roster
