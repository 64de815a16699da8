/-
Roster.Object.Shape — everything that can be read and written, by name.

A shape puts a document into normal form: it reads the document and
writes what it has read.
-/
import Roster.Object.BootstrapConfig
import Roster.Object.Cluster
import Roster.Object.ControlPlane
import Roster.Object.Machine
import Roster.Object.Subject
import Roster.Object.Unstructured

namespace Roster

/-- Something that can be read and written. -/
structure Shape where
  name : String
  /-- A document in normal form; nothing if it cannot be read. -/
  normalize? : Document → Option Json

namespace Shape

/-- The shape given by a reading and a writing. -/
def ofCodec (name : String) (decode : Decoder α) (encode : α → Json) : Shape :=
  ⟨name, fun d => (decode d).map encode⟩

/-- All shapes. -/
def all : List Shape := [
  ofCodec "RKE2ControlPlane" ControlPlane.decode ControlPlane.encode,
  ofCodec "RKE2ControlPlaneSpec" ControlPlaneSpec.decode ControlPlaneSpec.encode,
  ofCodec "RKE2ControlPlaneStatus" ControlPlaneStatus.decode ControlPlaneStatus.encode,
  ofCodec "AgentConfig" AgentConfig.decode AgentConfig.encode,
  ofCodec "ServerConfig" ServerConfig.decode ServerConfig.encode,
  ofCodec "DisableComponents" DisabledComponents.decode DisabledComponents.encode,
  ofCodec "EtcdConfig" EtcdConfig.decode EtcdConfig.encode,
  ofCodec "EtcdBackupConfig" BackupConfig.decode BackupConfig.encode,
  ofCodec "Machine" Machine.decode Machine.encode,
  ofCodec "MachineSpec" MachineSpec.decode MachineSpec.encode,
  ofCodec "MachineStatus" MachineStatus.decode MachineStatus.encode,
  ofCodec "Bootstrap" Bootstrap.decode Bootstrap.encode,
  ofCodec "Cluster" Cluster.decode Cluster.encode,
  ofCodec "ClusterSpec" ClusterSpec.decode ClusterSpec.encode,
  ofCodec "ClusterStatus" ClusterStatus.decode ClusterStatus.encode,
  ofCodec "FailureDomainSpec" FailureDomain.decode FailureDomain.encode,
  ofCodec "RKE2Config" BootstrapConfig.decode BootstrapConfig.encode,
  ofCodec "ResourceRef" Reference.decode Reference.encode,
  ofCodec "Condition" Condition.decode Condition.encode,
  ofCodec "DynamicObject" Unstructured.decode Unstructured.encode,
  ofCodec "ObjectReference" Subject.decode Subject.encode]

/-- The shape of a name. -/
def find? (name : String) : Option Shape := all.find? fun s => s.name == name

end Shape

end Roster
