/-
Roster.Proofs.Excused — control planes that are left alone.

Five tests stand before everything that a pass may do.  They overlap, and
their order matters only for the report: a specification that breaks a rule
(`ControlPlaneSpec.Breaks`) is reported whatever the later tests would say,
but not while the control plane is being deleted.

`ControlPlane.IsExcused` says the five apart from their order, in terms of
what is stored, and `Memory.scope?_eq_none_iff` shows that these are all the
reasons there are.  What the members look like, what they drifted from and
which calls would fail does not come in.
-/
import Roster.Proofs.MemoryPass
import Roster.Sample

namespace Roster

/-! ## Rules of a specification -/

namespace ControlPlaneSpec

/-- A rule that a specification breaks, with the field it is about and its wording. -/
inductive Breaks (s : ControlPlaneSpec) : (field message : String) → Prop
  | replicas (h : s.desiredReplicas.toInt < 0) :
      Breaks s "spec.replicas" "replicas cannot be negative"
  | version (h : ∀ c ∈ s.version.toList, Text.isBlank c = true) :
      Breaks s "spec.version" "version cannot be empty"
  | template (h : s.infrastructureRef.kind = "" ∨ s.infrastructureRef.name = "") :
      Breaks s "spec.infrastructureRef" "infrastructure template must have a kind and a name"

/-- A specification that breaks no rule. -/
def IsValid (s : ControlPlaneSpec) : Prop := ∀ field message, ¬ s.Breaks field message

variable {s : ControlPlaneSpec} {name : String}

theorem namesNoTemplate_iff :
    (Text.isEmpty s.infrastructureRef.kind || Text.isEmpty s.infrastructureRef.name) = true ↔
      s.infrastructureRef.kind = "" ∨ s.infrastructureRef.name = "" := by
  rw [Bool.or_eq_true, Text.isEmpty_iff, Text.isEmpty_iff]

/-- A fault is about a rule that is broken. -/
theorem breaks_of_fault? {e : Error} (h : s.fault? name = some e) :
    ∃ field message, s.Breaks field message ∧ e = .validation name message (some field) := by
  unfold fault? at h
  split at h
  next hreplicas =>
    exact ⟨_, _, .replicas (Int32.lt_iff_toInt_lt.mp hreplicas), (Option.some.inj h).symm⟩
  split at h
  next hversion =>
    exact ⟨_, _, .version (Text.isBlankText_iff.mp hversion), (Option.some.inj h).symm⟩
  split at h
  next htemplate =>
    exact ⟨_, _, .template (namesNoTemplate_iff.mp htemplate), (Option.some.inj h).symm⟩
  · cases h

/-- No rule is overlooked, though only the first one that is broken is told. -/
theorem isValid_of_fault? (h : s.fault? name = none) : s.IsValid := by
  unfold fault? at h
  split at h
  · cases h
  next hreplicas =>
    split at h
    · cases h
    next hversion =>
      split at h
      · cases h
      next htemplate =>
        rintro _ _ (hnegative | hblank | hnone)
        · exact hreplicas (Int32.lt_iff_toInt_lt.mpr hnegative)
        · exact hversion (Text.isBlankText_iff.mpr hblank)
        · exact htemplate (namesNoTemplate_iff.mpr hnone)

theorem fault?_eq_none_iff : s.fault? name = none ↔ s.IsValid := by
  refine ⟨isValid_of_fault?, fun h => ?_⟩
  cases hfault : s.fault? name with
  | none => rfl
  | some e =>
    obtain ⟨field, message, hbreaks, -⟩ := breaks_of_fault? hfault
    exact absurd hbreaks (h field message)

end ControlPlaneSpec

/-! ## Reasons to leave a control plane alone -/

namespace Metadata

/-- An object without an owner of a kind has no name of one. -/
theorem ownerName?_eq_none_iff {m : Metadata} {kind : String} :
    m.ownerName? kind = none ↔ ∀ r ∈ m.owners, r.kind ≠ kind := by
  simp [ownerName?]

end Metadata

namespace ControlPlane

/-- A pass over `p` has nothing to do in a store that holds `inv`. -/
inductive IsExcused (p : ControlPlane) (inv : Inventory) : Prop
  | deleted (h : p.metadata.deletionTimestamp.isSome = true)
  | invalid (h : ¬ p.spec.IsValid)
  | unowned (h : ∀ r ∈ p.metadata.owners, r.kind ≠ Kind.cluster.name)
  | unknown (name : String) (howner : p.metadata.ownerName? Kind.cluster.name = some name)
      (h : inv.clusters.get? ⟨p.ns, name⟩ = none)
  | paused (name : String) (cluster : Cluster)
      (howner : p.metadata.ownerName? Kind.cluster.name = some name)
      (hcluster : inv.clusters.get? ⟨p.ns, name⟩ = some cluster)
      (h : cluster.spec.paused = true)

/-- A warning about a rule that the specification of `p` breaks. -/
structure Warns (p : ControlPlane) (report : Event) : Prop where
  warning : report.warning = true
  reason : report.reason = Event.validationFailed
  subject : report.subject = p.subject
  note : ∃ field message, p.spec.Breaks field message ∧
    report.note = some (Error.validation p.displayName message (some field)).message

variable {p : ControlPlane}

/-- A control plane that is not being deleted is warned about once if its
specification breaks a rule. -/
theorem objections_of_not_isValid (halive : p.metadata.deletionTimestamp = none)
    (hinvalid : ¬ p.spec.IsValid) : ∃ report, p.objections = [report] ∧ p.Warns report := by
  cases hfault : p.spec.fault? p.displayName with
  | none => exact absurd (ControlPlaneSpec.fault?_eq_none_iff.mp hfault) hinvalid
  | some e =>
    obtain ⟨field, message, hbreaks, rfl⟩ := ControlPlaneSpec.breaks_of_fault? hfault
    refine ⟨p.faultReport _, ?_, rfl, rfl, rfl, field, message, hbreaks, rfl⟩
    rw [objections, halive, hfault]
    rfl

theorem objections_eq_nil (h : p.metadata.deletionTimestamp.isSome = true ∨ p.spec.IsValid) :
    p.objections = [] := by
  unfold objections
  split
  · rfl
  next halive => rw [ControlPlaneSpec.fault?_eq_none_iff.mpr (h.resolve_left halive)]; rfl

end ControlPlane

/-- The reasons to leave a control plane alone are all the reasons a pass has not
to decide on anything. -/
theorem Memory.scope?_eq_none_iff {store : Memory} {p : ControlPlane} :
    store.scope? p = none ↔ p.IsExcused store.inventory := by
  constructor
  · intro h
    unfold scope? at h
    split at h
    next hfirst =>
      rw [Bool.or_eq_true] at hfirst
      obtain hdeleted | hfault := hfirst
      · exact .deleted hdeleted
      · refine .invalid fun hvalid => ?_
        rw [ControlPlaneSpec.fault?_eq_none_iff.mpr hvalid] at hfault
        cases hfault
    split at h
    next howner => exact .unowned (Metadata.ownerName?_eq_none_iff.mp howner)
    next name howner =>
      split at h
      next hcluster => exact .unknown name howner hcluster
      next cluster hcluster =>
        split at h
        next hpaused => exact .paused name cluster howner hcluster hpaused
        · cases h
  · intro h
    cases hscope : store.scope? p with
    | none => rfl
    | some s =>
      obtain ⟨halive, hfault, clusterName, cluster, howner, hcluster, hrunning, -⟩ :=
        scope?_eq_some_iff.mp hscope
      -- What the scope was found with rules out every reason.
      exfalso
      cases h with
      | deleted h => simp [halive] at h
      | invalid h => exact h (ControlPlaneSpec.fault?_eq_none_iff.mp hfault)
      | unowned h => simp [Metadata.ownerName?_eq_none_iff.mpr h] at howner
      | unknown name howner' h =>
        obtain rfl : name = clusterName := Option.some.inj (howner'.symm.trans howner)
        cases h.symm.trans hcluster
      | paused name cluster' howner' hcluster' h =>
        obtain rfl : name = clusterName := Option.some.inj (howner'.symm.trans howner)
        obtain rfl : cluster' = cluster := Option.some.inj (hcluster'.symm.trans hcluster)
        cases h.symm.trans hrunning

/-! ## A pass -/

/-- A pass over a control plane that is left alone waits for a change and leaves
the whole store as it was.  It reports nothing, except that it warns, once, about
a specification that breaks a rule, unless the control plane is being deleted. -/
theorem ControlPlane.IsExcused.pass_only_warns {p : ControlPlane} {j : Journal Memory}
    (h : p.IsExcused j.store.inventory) (backoff : Backoff) (draws : Draws) (now : Instant) :
    ∃ reports, reconcile ⟨Memory.store, backoff, draws⟩ now p j =
        (.ok .await, ⟨j.store, j.events ++ reports⟩) ∧
      (p.metadata.deletionTimestamp = none ∧ ¬ p.spec.IsValid →
        ∃ report, reports = [report] ∧ p.Warns report) ∧
      (p.metadata.deletionTimestamp.isSome = true ∨ p.spec.IsValid → reports = []) := by
  have hpass : reconcile ⟨Memory.store, backoff, draws⟩ now p j =
      (.ok .await, ⟨j.store, j.events ++ p.objections⟩) :=
    Memory.reconcile_of_scope?_eq_none (Memory.scope?_eq_none_iff.mpr h)
  exact ⟨p.objections, hpass, fun hinvalid => objections_of_not_isValid hinvalid.1 hinvalid.2,
    objections_eq_nil⟩

/-- A control plane that asks for fewer than no members is only warned about, and
keeps all it has, members of another version and members that are being deleted
among them. -/
theorem negative_request_only_warns :
    let p := Sample.controlPlane "cp" (-1)
    let store := { Sample.assortment p with faults := [.createMachine, .deleteAny] }
    ¬ p.spec.IsValid ∧ p.IsExcused store.inventory ∧
      store.inventory.machines.toList.countP p.manages = 5 ∧
      store.inventory.machines.toList.countP (fun m => !p.isCurrent m) = 2 ∧
      store.inventory.machines.toList.countP Machine.isDeleting = 2 ∧
      ∃ report, p.Warns report ∧
        reconcile ⟨Memory.store, .usual, ⟨.first, .first, .first⟩⟩ (.ofSeconds Sample.epoch) p
          ⟨store, []⟩ = (.ok .await, ⟨store, [report]⟩) := by
  intro p store
  have hinvalid : ¬ p.spec.IsValid := fun hvalid => hvalid _ _ (.replicas (by decide))
  have hexcused : p.IsExcused store.inventory := .invalid hinvalid
  have hmembers : store.inventory.machines.toList.countP p.manages = 5 ∧
      store.inventory.machines.toList.countP (fun m => !p.isCurrent m) = 2 ∧
      store.inventory.machines.toList.countP Machine.isDeleting = 2 := by decide +kernel
  obtain ⟨hfive, hdrifted, hleaving⟩ := hmembers
  obtain ⟨reports, hpass, hwarned, -⟩ := ControlPlane.IsExcused.pass_only_warns
    (j := ⟨store, []⟩) hexcused .usual ⟨.first, .first, .first⟩ (.ofSeconds Sample.epoch)
  obtain ⟨report, rfl, hwarns⟩ := hwarned ⟨rfl, hinvalid⟩
  exact ⟨hinvalid, hexcused, hfive, hdrifted, hleaving, report, hwarns, hpass⟩

end Roster
