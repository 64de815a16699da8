/-
Roster.Proofs.RoundTrip — every record is read back from the value it is
written as.

`schemas_read_back`: nothing that is set in a record is lost by writing
it, and nothing appears in it by reading it.  Every kind of record has
its slots (`slots`), and is written as the object of its slots
(`encode_eq`); a reader finds in them what was put there
(`Document.record?_ofSlots`), so what is left for one kind of record is
that every field is read the way it is written.

Only times stand for more than their text does: conditions are read back
when the text of their times has all of them (`Instant.IsOrdinary`).
-/
import Roster.Object.BootstrapConfig
import Roster.Object.Cluster
import Roster.Object.ControlPlane
import Roster.Object.Machine
import Roster.Proofs.Snapshot
import Roster.Proofs.Time.Timestamps

namespace Roster

/-! ## References -/

namespace Reference

/-- The slots of a reference. -/
def slots (r : Reference) : List Slot :=
  [("apiVersion", some (.text r.apiVersion)), ("kind", some (.text r.kind)),
    ("namespace", r.ns.map .text), ("name", some (.text r.name)), ("uid", r.uid.map .text)]

theorem encode_eq (r : Reference) : r.encode = Json.ofSlots r.slots := by
  simp [encode, slots, Json.ofSlots, always_eq, whenSome_eq]

theorem undoes : Undoes decode encode := by
  intro r
  rw [encode_eq, decode, Document.bind_record?_ofSlots r.slots fields rfl (by decide)]
  simp only [slots, Slot.find_cons, String.reduceEq, reduceIte, required_slot undoes_text,
    optional_slot (fun s _ => undoes_text s) fun _ => nofun]
  rfl

/-- A reference is an object. -/
theorem encode_ne_null (r : Reference) : r.encode.toDocument ≠ .null := nofun

end Reference

/-! ## Settings of nodes -/

namespace AgentConfig

/-- The slots of the agent's settings. -/
def slots (c : AgentConfig) : List Slot :=
  [("nodeLabels", Slot.list .text c.nodeLabels), ("nodeTaints", Slot.list .text c.nodeTaints),
    ("kubeletArgs", Slot.list .text c.kubeletArgs),
    ("kubeProxyArgs", Slot.list .text c.kubeProxyArgs),
    ("containerRuntimeEndpoint", c.containerRuntimeEndpoint.map .text),
    ("cisProfile", c.cisProfile.map .text), ("selinux", Slot.flag c.selinux),
    ("protectKernelDefaults", Slot.flag c.protectKernelDefaults)]

theorem encode_eq (c : AgentConfig) : c.encode = Json.ofSlots c.slots := by
  simp [encode, slots, Json.ofSlots, whenNonempty_eq, whenSome_eq, whenTrue_eq]

theorem undoes : Undoes decode encode := by
  intro c
  rw [encode_eq, decode, Document.bind_record?_ofSlots c.slots fields rfl (by decide)]
  simp only [slots, Slot.find_cons, String.reduceEq, reduceIte, texts_slot, optionalText_slot,
    flag_slot]
  rfl

end AgentConfig

namespace BootstrapConfig

theorem undoes_spec : Undoes decodeSpec encodeSpec := by
  intro c
  have hslots : encodeSpec c = Json.ofSlots [("agentConfig", some c.encode)] := rfl
  rw [hslots, decodeSpec, Document.bind_record?_ofSlots _ ["agentConfig"] rfl (by decide)]
  simp only [Slot.find_cons, reduceIte, defaulted_slot AgentConfig.undoes]

end BootstrapConfig

/-! ## Clusters -/

namespace ClusterSpec

/-- The slots of a cluster's specification. -/
def slots (s : ClusterSpec) : List Slot :=
  [("paused", Slot.flag s.paused), ("controlPlaneRef", s.controlPlaneRef.map Reference.encode),
    ("infrastructureRef", s.infrastructureRef.map Reference.encode)]

theorem encode_eq (s : ClusterSpec) : s.encode = Json.ofSlots s.slots := by
  simp [encode, slots, Json.ofSlots, whenSome_eq, whenTrue_eq]

theorem undoes : Undoes decode encode := by
  intro s
  rw [encode_eq, decode, Document.bind_record?_ofSlots s.slots fields rfl (by decide)]
  simp only [slots, Slot.find_cons, String.reduceEq, reduceIte, flag_slot,
    optional_slot (fun r _ => Reference.undoes r) Reference.encode_ne_null]
  rfl

end ClusterSpec

namespace FailureDomain

/-- The slots of a failure domain. -/
def slots (f : FailureDomain) : List Slot :=
  [("controlPlane", some (.bool f.controlPlane)), ("attributes", Slot.dict .text f.attributes)]

theorem encode_eq (f : FailureDomain) : f.encode = Json.ofSlots f.slots := by
  rw [encode, Dict.encodeTexts, unlessEmpty_eq]
  simp [slots, Json.ofSlots, always_eq]

theorem undoes : Undoes decode encode := by
  intro f
  rw [encode_eq, decode, Document.bind_record?_ofSlots f.slots fields rfl (by decide)]
  simp only [slots, Slot.find_cons, String.reduceEq, reduceIte, Decode.flag,
    defaulted_slot undoes_bool, dict_slot undoes_text]
  rfl

end FailureDomain

namespace ClusterStatus

/-- The slots of a cluster's status. -/
def slots (s : ClusterStatus) : List Slot :=
  [("failureDomains", Slot.dict FailureDomain.encode s.failureDomains),
    ("phase", s.phase.map .text)]

theorem encode_eq (s : ClusterStatus) : s.encode = Json.ofSlots s.slots := by
  rw [encode, unlessEmpty_eq]
  simp [slots, Json.ofSlots, whenSome_eq]

theorem undoes : Undoes decode encode := by
  intro s
  rw [encode_eq, decode, Document.bind_record?_ofSlots s.slots fields rfl (by decide)]
  simp only [slots, Slot.find_cons, String.reduceEq, reduceIte, dict_slot FailureDomain.undoes,
    optionalText_slot]
  rfl

end ClusterStatus

/-! ## Conditions -/

theorem ConditionStatus.undoes : Undoes (Decode.word words) fun s => .text s.word := by
  intro s
  cases s <;> rfl

theorem Severity.undoes : Undoes (Decode.word words) fun s => .text s.word := by
  intro s
  cases s <;> rfl

/-- An ordinary time is read back from its text. -/
theorem Instant.decode_render {t : Instant} (h : t.IsOrdinary) :
    Instant.decode (Json.text t.render).toDocument = some t := by
  rw [Instant.decode, undoes_text, Option.bind_eq_bind, Option.bind_some, read?_render h]

namespace Condition

/-- The time of a condition, where it has one, is in its text as a whole. -/
def IsOrdinary (c : Condition) : Prop := ∀ t ∈ c.since, t.IsOrdinary

/-- The slots of a condition. -/
def slots (c : Condition) : List Slot :=
  [("type", some (.text c.type)), ("status", some (.text c.status.word)),
    ("severity", c.severity.map fun s => .text s.word), ("reason", c.reason.map .text),
    ("message", c.message.map .text),
    ("lastTransitionTime", c.since.map fun t => .text t.render)]

theorem encode_eq (c : Condition) : c.encode = Json.ofSlots c.slots := by
  simp [encode, slots, Json.ofSlots, always_eq, whenSome_eq]

theorem decode_encode {c : Condition} (h : c.IsOrdinary) :
    decode c.encode.toDocument = some c := by
  have hseverity := optional_slot (fun s (_ : s ∈ c.severity) => Severity.undoes s) fun _ => nofun
  have hsince := optional_slot (fun t ht => Instant.decode_render (h t ht)) fun _ => nofun
  rw [encode_eq, decode, Document.bind_record?_ofSlots c.slots fields rfl (by decide)]
  simp only [slots, Slot.find_cons, String.reduceEq, reduceIte, required_slot undoes_text,
    required_slot ConditionStatus.undoes, hseverity,
    optional_slot (fun s _ => undoes_text s) fun _ => nofun, hsince]
  rfl

end Condition

/-! ## Machines -/

namespace Bootstrap

/-- The slots of a source of settings. -/
def slots (b : Bootstrap) : List Slot :=
  [("configRef", b.configRef.map Reference.encode),
    ("dataSecretName", b.dataSecretName.map .text)]

theorem encode_eq (b : Bootstrap) : b.encode = Json.ofSlots b.slots := by
  simp [encode, slots, Json.ofSlots, whenSome_eq]

theorem undoes : Undoes decode encode := by
  intro b
  rw [encode_eq, decode, Document.bind_record?_ofSlots b.slots fields rfl (by decide)]
  simp only [slots, Slot.find_cons, String.reduceEq, reduceIte, optionalText_slot,
    optional_slot (fun r _ => Reference.undoes r) Reference.encode_ne_null]
  rfl

end Bootstrap

namespace MachineSpec

/-- The slots of a machine's specification. -/
def slots (s : MachineSpec) : List Slot :=
  [("clusterName", some (.text s.clusterName)), ("bootstrap", some s.bootstrap.encode),
    ("infrastructureRef", some s.infrastructureRef.encode), ("version", s.version.map .text),
    ("failureDomain", s.failureDomain.map .text),
    ("nodeDrainTimeout", s.nodeDrainTimeout.map .text)]

theorem encode_eq (s : MachineSpec) : s.encode = Json.ofSlots s.slots := by
  simp [encode, slots, Json.ofSlots, always_eq, whenSome_eq]

theorem undoes : Undoes decode encode := by
  intro s
  rw [encode_eq, decode, Document.bind_record?_ofSlots s.slots fields rfl (by decide)]
  simp only [slots, Slot.find_cons, String.reduceEq, reduceIte, required_slot undoes_text,
    defaulted_slot Bootstrap.undoes, required_slot Reference.undoes, optionalText_slot]
  rfl

end MachineSpec

namespace MachineStatus

/-- The slots of a machine's status. -/
def slots (s : MachineStatus) : List Slot :=
  [("phase", s.phase.map .text), ("conditions", Slot.list Condition.encode s.conditions)]

theorem encode_eq (s : MachineStatus) : s.encode = Json.ofSlots s.slots := by
  simp [encode, slots, Json.ofSlots, whenNonempty_eq, whenSome_eq]

theorem decode_encode {s : MachineStatus} (h : ∀ c ∈ s.conditions, c.IsOrdinary) :
    decode s.encode.toDocument = some s := by
  have hconditions := list_slot fun c hc => Condition.decode_encode (h c hc)
  rw [encode_eq, decode, Document.bind_record?_ofSlots s.slots fields rfl (by decide)]
  simp only [slots, Slot.find_cons, String.reduceEq, reduceIte, optionalText_slot, hconditions]
  rfl

end MachineStatus

/-! ## Control planes -/

namespace ControlPlaneSpec

/-- The slots of a control plane's specification. -/
def slots (s : ControlPlaneSpec) : List Slot :=
  [("replicas", s.replicas.map fun n => .int n.toInt), ("version", some (.text s.version)),
    ("agentConfig", some s.agentConfig.encode), ("serverConfig", some s.serverConfig.encode),
    ("infrastructureRef", some s.infrastructureRef.encode),
    ("nodeDrainTimeout", s.nodeDrainTimeout.map .text)]

theorem encode_eq (s : ControlPlaneSpec) : s.encode = Json.ofSlots s.slots := by
  simp [encode, slots, Json.ofSlots, always_eq, whenSome_eq]

theorem undoes : Undoes decode encode := by
  intro s
  have hreplicas := optional_slot (fun n (_ : n ∈ s.replicas) => undoes_int32 n) fun _ => nofun
  rw [encode_eq, decode, Document.bind_record?_ofSlots s.slots fields rfl (by decide)]
  simp only [slots, Slot.find_cons, String.reduceEq, reduceIte, hreplicas,
    required_slot undoes_text, defaulted_slot AgentConfig.undoes,
    defaulted_slot ServerConfig.undoes, required_slot Reference.undoes, optionalText_slot]
  rfl

end ControlPlaneSpec

namespace ControlPlaneStatus

/-- The slots of a control plane's status. -/
def slots (s : ControlPlaneStatus) : List Slot :=
  [("observedGeneration", s.observedGeneration.map fun n => .int n.toInt),
    ("replicas", some (.int s.replicas.toInt)),
    ("updatedReplicas", some (.int s.updatedReplicas.toInt)),
    ("readyReplicas", some (.int s.readyReplicas.toInt)),
    ("unavailableReplicas", some (.int s.unavailableReplicas.toInt)),
    ("initialized", some (.bool s.initialized)), ("ready", some (.bool s.ready)),
    ("conditions", Slot.list Condition.encode s.conditions)]

theorem encode_eq (s : ControlPlaneStatus) : s.encode = Json.ofSlots s.slots := by
  simp [encode, slots, Json.ofSlots, always_eq, whenNonempty_eq, whenSome_eq]

theorem decode_encode {s : ControlPlaneStatus} (h : ∀ c ∈ s.conditions, c.IsOrdinary) :
    decode s.encode.toDocument = some s := by
  have hgeneration :=
    optional_slot (fun n (_ : n ∈ s.observedGeneration) => undoes_int64 n) fun _ => nofun
  have hconditions := list_slot fun c hc => Condition.decode_encode (h c hc)
  rw [encode_eq, decode, Document.bind_record?_ofSlots s.slots fields rfl (by decide)]
  simp only [slots, Slot.find_cons, String.reduceEq, reduceIte, hgeneration,
    defaulted_slot undoes_int32, Decode.flag, defaulted_slot undoes_bool, hconditions]
  rfl

end ControlPlaneStatus

/-! ## All records -/

/-- Every record is read back from the value it is written as: the
specification and the status of a control plane, of a machine and of a
cluster, the settings of a node, every group of settings in them,
references and conditions. -/
theorem schemas_read_back :
    Undoes ControlPlaneSpec.decode ControlPlaneSpec.encode ∧
    Undoes AgentConfig.decode AgentConfig.encode ∧
    Undoes ServerConfig.decode ServerConfig.encode ∧
    Undoes DisabledComponents.decode DisabledComponents.encode ∧
    Undoes EtcdConfig.decode EtcdConfig.encode ∧
    Undoes BackupConfig.decode BackupConfig.encode ∧
    Undoes MachineSpec.decode MachineSpec.encode ∧
    Undoes Bootstrap.decode Bootstrap.encode ∧
    Undoes ClusterSpec.decode ClusterSpec.encode ∧
    Undoes ClusterStatus.decode ClusterStatus.encode ∧
    Undoes FailureDomain.decode FailureDomain.encode ∧
    Undoes BootstrapConfig.decodeSpec BootstrapConfig.encodeSpec ∧
    Undoes Reference.decode Reference.encode ∧
    (∀ c : Condition, c.IsOrdinary → Condition.decode c.encode.toDocument = some c) ∧
    (∀ s : MachineStatus, (∀ c ∈ s.conditions, c.IsOrdinary) →
      MachineStatus.decode s.encode.toDocument = some s) ∧
    ∀ s : ControlPlaneStatus, (∀ c ∈ s.conditions, c.IsOrdinary) →
      ControlPlaneStatus.decode s.encode.toDocument = some s :=
  ⟨ControlPlaneSpec.undoes, AgentConfig.undoes, ServerConfig.undoes, DisabledComponents.undoes,
    EtcdConfig.undoes, BackupConfig.undoes, MachineSpec.undoes, Bootstrap.undoes,
    ClusterSpec.undoes, ClusterStatus.undoes, FailureDomain.undoes, BootstrapConfig.undoes_spec,
    Reference.undoes, fun _ => Condition.decode_encode, fun _ => MachineStatus.decode_encode,
    fun _ => ControlPlaneStatus.decode_encode⟩

/-- A condition that changed in the last second of a leap day, one
nanosecond into it, is read back, and with it the statuses that hold it. -/
theorem schemas_read_back_leapDay :
    let condition : Condition := .holding ⟨951868799, 1⟩ "AgentHealthy"
    let machine : MachineStatus := ⟨some "Running", [condition]⟩
    let plane : ControlPlaneStatus := { ControlPlaneStatus.empty with conditions := [condition] }
    condition.IsOrdinary ∧ Condition.decode condition.encode.toDocument = some condition ∧
      MachineStatus.decode machine.encode.toDocument = some machine ∧
      ControlPlaneStatus.decode plane.encode.toDocument = some plane := by
  intro condition machine plane
  have hordinary : condition.IsOrdinary := by
    intro t ht
    obtain rfl : (⟨951868799, 1⟩ : Instant) = t := Option.some.inj ht
    exact ⟨by decide, by decide, by decide⟩
  have hall : ∀ c ∈ [condition], c.IsOrdinary := List.forall_mem_singleton.mpr hordinary
  obtain ⟨-, -, -, -, -, -, -, -, -, -, -, -, -, hcondition, hmachine, hplane⟩ :=
    schemas_read_back
  exact ⟨hordinary, hcondition condition hordinary, hmachine machine hall, hplane plane hall⟩

end Roster
