/-
Roster.Object.Configuration — the settings handed to the members of a
control plane.

Every part may be left out when settings are read, and what says nothing
is left out when they are written: empty lists and maps, unset options
and unset flags.  The nested groups are always written.
-/
import Roster.Object.Metadata

namespace Roster

/-- One group of fields holding a list of texts. -/
def Decode.texts (d : Option Document) : Option (List String) :=
  Decode.defaulted [] (Decode.list Decode.text) d

/-- One optional text field. -/
def Decode.optionalText (d : Option Document) : Option (Option String) :=
  Decode.optional Decode.text d

/-- One flag, unset when it is missing. -/
def Decode.flag (d : Option Document) : Option Bool := Decode.defaulted false Decode.bool d

/-! ## Settings of the agent -/

/-- Settings of the agent on a node. -/
structure AgentConfig where
  nodeLabels : List String
  nodeTaints : List String
  kubeletArgs : List String
  kubeProxyArgs : List String
  containerRuntimeEndpoint : Option String
  cisProfile : Option String
  selinux : Bool
  protectKernelDefaults : Bool
  deriving DecidableEq, Repr

namespace AgentConfig

/-- Settings that leave everything open. -/
def empty : AgentConfig := ⟨[], [], [], [], none, none, false, false⟩

/-- The fields of the agent's settings. -/
def fields : List String :=
  ["nodeLabels", "nodeTaints", "kubeletArgs", "kubeProxyArgs", "containerRuntimeEndpoint",
    "cisProfile", "selinux", "protectKernelDefaults"]

/-- Read the agent's settings. -/
def decode : Decoder AgentConfig := fun d => do
  let field ← d.record? fields
  let nodeLabels ← Decode.texts (field "nodeLabels")
  let nodeTaints ← Decode.texts (field "nodeTaints")
  let kubeletArgs ← Decode.texts (field "kubeletArgs")
  let kubeProxyArgs ← Decode.texts (field "kubeProxyArgs")
  let endpoint ← Decode.optionalText (field "containerRuntimeEndpoint")
  let cisProfile ← Decode.optionalText (field "cisProfile")
  let selinux ← Decode.flag (field "selinux")
  let protect ← Decode.flag (field "protectKernelDefaults")
  return ⟨nodeLabels, nodeTaints, kubeletArgs, kubeProxyArgs, endpoint, cisProfile, selinux,
    protect⟩

/-- Write the agent's settings. -/
def encode (c : AgentConfig) : Json :=
  .object (whenNonempty "nodeLabels" .text c.nodeLabels ++
    whenNonempty "nodeTaints" .text c.nodeTaints ++
    whenNonempty "kubeletArgs" .text c.kubeletArgs ++
    whenNonempty "kubeProxyArgs" .text c.kubeProxyArgs ++
    whenSome "containerRuntimeEndpoint" .text c.containerRuntimeEndpoint ++
    whenSome "cisProfile" .text c.cisProfile ++ whenTrue "selinux" c.selinux ++
    whenTrue "protectKernelDefaults" c.protectKernelDefaults)

end AgentConfig

/-! ## Settings of the server -/

/-- Parts of a server that are not deployed. -/
structure DisabledComponents where
  kubernetes : List String
  plugins : List String
  deriving DecidableEq, Repr

namespace DisabledComponents

/-- Everything is deployed. -/
def empty : DisabledComponents := ⟨[], []⟩

/-- The fields of the disabled parts. -/
def fields : List String := ["kubernetesComponents", "pluginComponents"]

/-- Read the disabled parts. -/
def decode : Decoder DisabledComponents := fun d => do
  let field ← d.record? fields
  let kubernetes ← Decode.texts (field "kubernetesComponents")
  let plugins ← Decode.texts (field "pluginComponents")
  return ⟨kubernetes, plugins⟩

/-- Write the disabled parts. -/
def encode (c : DisabledComponents) : Json :=
  .object (whenNonempty "kubernetesComponents" .text c.kubernetes ++
    whenNonempty "pluginComponents" .text c.plugins)

end DisabledComponents

/-- How the store of a control plane is backed up. -/
structure BackupConfig where
  schedule : Option String
  retention : Option String
  directory : Option String
  deriving DecidableEq, Repr

namespace BackupConfig

/-- Settings that leave everything open. -/
def empty : BackupConfig := ⟨none, none, none⟩

/-- The fields of the backup settings. -/
def fields : List String := ["scheduleCronSpec", "retention", "directory"]

/-- Read the backup settings. -/
def decode : Decoder BackupConfig := fun d => do
  let field ← d.record? fields
  let schedule ← Decode.optionalText (field "scheduleCronSpec")
  let retention ← Decode.optionalText (field "retention")
  let directory ← Decode.optionalText (field "directory")
  return ⟨schedule, retention, directory⟩

/-- Write the backup settings. -/
def encode (c : BackupConfig) : Json :=
  .object (whenSome "scheduleCronSpec" .text c.schedule ++
    whenSome "retention" .text c.retention ++ whenSome "directory" .text c.directory)

end BackupConfig

/-- Settings of the embedded store of a control plane. -/
structure EtcdConfig where
  exposeMetrics : Bool
  backup : BackupConfig
  custom : Dict String
  deriving DecidableEq

namespace EtcdConfig

/-- Settings that leave everything open. -/
def empty : EtcdConfig := ⟨false, .empty, .empty⟩

/-- The fields of the settings of the embedded store. -/
def fields : List String := ["exposeMetrics", "backupConfig", "customConfig"]

/-- Read the settings of the embedded store. -/
def decode : Decoder EtcdConfig := fun d => do
  let field ← d.record? fields
  let exposeMetrics ← Decode.flag (field "exposeMetrics")
  let backup ← Decode.defaulted .empty BackupConfig.decode (field "backupConfig")
  let custom ← Decode.defaulted .empty (Decode.dict Decode.text) (field "customConfig")
  return ⟨exposeMetrics, backup, custom⟩

/-- Write the settings of the embedded store. -/
def encode (c : EtcdConfig) : Json :=
  .object (whenTrue "exposeMetrics" c.exposeMetrics ++ always "backupConfig" c.backup.encode ++
    (if c.custom.isEmpty then [] else always "customConfig" (Dict.encodeTexts c.custom)))

end EtcdConfig

/-- Settings of the server that every member of a control plane shares. -/
structure ServerConfig where
  tlsSan : List String
  cni : Option String
  clusterDomain : Option String
  cloudProviderName : Option String
  disabled : DisabledComponents
  etcd : EtcdConfig
  deriving DecidableEq

namespace ServerConfig

/-- Settings that leave everything open. -/
def empty : ServerConfig := ⟨[], none, none, none, .empty, .empty⟩

/-- The fields of the server's settings. -/
def fields : List String :=
  ["tlsSan", "cni", "clusterDomain", "cloudProviderName", "disableComponents", "etcd"]

/-- Read the server's settings. -/
def decode : Decoder ServerConfig := fun d => do
  let field ← d.record? fields
  let tlsSan ← Decode.texts (field "tlsSan")
  let cni ← Decode.optionalText (field "cni")
  let clusterDomain ← Decode.optionalText (field "clusterDomain")
  let cloudProviderName ← Decode.optionalText (field "cloudProviderName")
  let disabled ← Decode.defaulted .empty DisabledComponents.decode (field "disableComponents")
  let etcd ← Decode.defaulted .empty EtcdConfig.decode (field "etcd")
  return ⟨tlsSan, cni, clusterDomain, cloudProviderName, disabled, etcd⟩

/-- Write the server's settings. -/
def encode (c : ServerConfig) : Json :=
  .object (whenNonempty "tlsSan" .text c.tlsSan ++ whenSome "cni" .text c.cni ++
    whenSome "clusterDomain" .text c.clusterDomain ++
    whenSome "cloudProviderName" .text c.cloudProviderName ++
    always "disableComponents" c.disabled.encode ++ always "etcd" c.etcd.encode)

/-- The compact text of the server's settings, as it is kept on a machine
that was made from them. -/
def snapshot (c : ServerConfig) : String := c.encode.compact

/-- The settings that a text records. -/
def ofSnapshot? (text : String) : Option ServerConfig := (Document.parse? text).bind decode

end ServerConfig

end Roster
