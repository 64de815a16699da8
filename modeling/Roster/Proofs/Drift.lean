/-
Roster.Proofs.Drift — a member is replaced exactly when what it was made
from is no longer what is asked for.

A new machine keeps a record (`Machine.Records`): the version it runs,
and the text of the settings it was made from.  The text gives the settings
back, so the record is compared without loss, `Machine.Records.isCurrent_iff`.
`built_isCurrent_exactly` puts this together for a machine as it is built.

Releases that carry the same version are told apart nowhere: the record
keeps the version only.
-/
import Roster.Proofs.Blueprint
import Roster.Proofs.Snapshot
import Roster.Sample

namespace Roster

namespace Machine

/-- The machine keeps a record of being made from a release and settings. -/
structure Records (m : Machine) (release : String) (config : ServerConfig) : Prop where
  version : m.spec.version = some (Release.version release)
  settings : m.annotation? Labels.serverConfiguration = some config.snapshot

/-- A recorded machine is as specified exactly for the version and the settings
that it records. -/
theorem Records.isCurrent_iff {m : Machine} {release : String} {config : ServerConfig}
    (h : m.Records release config) {q : ControlPlane} :
    q.isCurrent m = true ↔
      Release.version release = Release.version q.spec.version ∧ config = q.spec.serverConfig := by
  have hruns : m.runs q.spec.version = true ↔
      Release.version release = Release.version q.spec.version := by
    rw [runs, h.version, beq_iff_eq, Option.some_inj]
  have hmade : m.wasMadeFrom q.spec.serverConfig = true ↔ config = q.spec.serverConfig := by
    unfold wasMadeFrom
    rw [h.settings]
    dsimp only
    rw [ServerConfig.ofSnapshot?_snapshot, beq_iff_eq, Option.some_inj]
  rw [ControlPlane.isCurrent, Bool.and_eq_true, hruns, hmade]

end Machine

namespace Scope

variable {s : Scope} {suffix : Suffix} {infrastructure bootstrap : Reference}
  {failureDomain : Option String} {m : Machine}

/-- A new machine records the release and the settings that are asked for. -/
theorem newMachine_records
    (h : s.newMachine suffix infrastructure bootstrap failureDomain = .ok m) :
    m.Records s.controlPlane.spec.version s.controlPlane.spec.serverConfig := by
  obtain ⟨name, owner, -, -, hmetadata, hspec, -⟩ := newMachine_eq_ok h
  have hrecord : Table.lookup (.ofList
      [(Labels.serverConfiguration, s.controlPlane.spec.serverConfig.snapshot)])
      Labels.serverConfiguration = some s.controlPlane.spec.serverConfig.snapshot :=
    Table.lookup_put.trans (if_pos rfl)
  refine ⟨by rw [hspec], ?_⟩
  rw [Machine.annotation?, Metadata.annotation?, hmetadata]
  exact hrecord

/-- Drift is noticed exactly: a machine as it is built for a control plane is as
another one specifies just when both ask for the same version and for the
same settings.  The recorded text of settings always gives them back, and a
machine never has to be replaced under the specification it was built for. -/
theorem built_isCurrent_exactly
    (h : s.newMachine suffix infrastructure bootstrap failureDomain = .ok m) :
    (∀ q : ControlPlane, q.isCurrent m = true ↔
      Release.version s.controlPlane.spec.version = Release.version q.spec.version ∧
        s.controlPlane.spec.serverConfig = q.spec.serverConfig) ∧
    (∀ config : ServerConfig, ServerConfig.ofSnapshot? config.snapshot = some config) ∧
    ∀ t : Scope, t.controlPlane.spec = s.controlPlane.spec → m ∉ t.outdated.toList := by
  have hrecords := newMachine_records h
  refine ⟨fun q => hrecords.isCurrent_iff, ServerConfig.ofSnapshot?_snapshot, fun t ht hm => ?_⟩
  have hcurrent : t.controlPlane.isCurrent m = true :=
    hrecords.isCurrent_iff.mpr ⟨by rw [ht], by rw [ht]⟩
  have hold := (Keyed.mem_filter.mp hm).2
  rw [hcurrent] at hold
  simp at hold

end Scope

/-- Settings with texts that have to be escaped, or could be mistaken for
settings left out. -/
def Sample.unusualConfig : ServerConfig where
  tlsSan := ["say \"hi\"\\", ""]
  cni := some ""
  clusterDomain := some "größe.\u0001"
  cloudProviderName := none
  disabled := .empty
  etcd := ⟨true, .empty, .ofList [("", "\n"), ("\t", "/")]⟩

/-- The sample control plane with a release and those settings, but for the name
of the provider. -/
def Sample.specified (release : String) (provider : Option String) : ControlPlane :=
  let p := controlPlane "cp" 1
  { p with spec := { p.spec with
      version := release
      serverConfig := { unusualConfig with cloudProviderName := provider } } }

/-- A machine of the sample control plane with those settings, as it is built. -/
def Sample.built : Except Halt Machine :=
  let s : Scope := ⟨specified "v1.29.4+rke2r1" none, cluster clusterName [], .empty⟩
  s.newMachine .first s.controlPlane.spec.infrastructureRef s.controlPlane.spec.infrastructureRef
    none

/-- A machine built for unusual settings need not be replaced for another build
of its version, and has to be once a setting is given as empty that had been
left out. -/
theorem unusual_drift_is_noticed :
    ∃ m, Sample.built = .ok m ∧
      (Sample.specified "v1.29.4+rke2r2" none).isCurrent m = true ∧
      (Sample.specified "v1.29.4+rke2r1" (some "")).isCurrent m = false := by
  obtain ⟨name, hname⟩ : ∃ name, Scope.freshName "cp" .first = .ok name :=
    Scope.exists_freshName_iff.mpr (by decide +kernel)
  obtain ⟨m, hm⟩ : ∃ m, Sample.built = .ok m :=
    Scope.exists_newMachine ⟨"cp", Sample.controlPlaneUid, rfl, rfl⟩ hname
  obtain ⟨hexact, -, -⟩ := Scope.built_isCurrent_exactly hm
  refine ⟨m, hm, (hexact _).mpr ⟨by decide +kernel, rfl⟩, ?_⟩
  rw [← Bool.not_eq_true, hexact]
  rintro ⟨-, hsettings⟩
  cases congrArg ServerConfig.cloudProviderName hsettings

end Roster
