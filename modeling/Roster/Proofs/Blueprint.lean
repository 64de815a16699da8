/-
Roster.Proofs.Blueprint — what the three objects of a new member look
like before they are created.

Each of the inversion lemmas says what a finished blueprint consists of,
as far as later proofs need it: where the object will be stored, whose it
is, and what it refers to.  Names and the owner are all that can be
missing, and a control plane that could be named as an owner once can be
named always, so after the first blueprint only a name can be missing
(`eq_aborted_of_bootstrapConfig`, `eq_aborted_of_newMachine`).  The other
way round, a template and names are all it takes (`exists_infrastructureClone`,
`exists_bootstrapConfig`, `exists_newMachine`).
-/
import Roster.Provision.Blueprint

namespace Roster

/-- What is left in front of a suffix is what the suffix was put behind. -/
theorem Text.dropSuffix?_eq_some_iff {text ending stem : String} :
    dropSuffix? text ending = some stem ↔ text = stem ++ ending := by
  unfold dropSuffix? endsWith
  simp only [List.isSuffixOf_iff_suffix]
  constructor
  · intro h
    split at h
    next hsuffix =>
      obtain ⟨front, hfront⟩ := hsuffix
      obtain rfl := Option.some.inj h
      rw [← String.toList_inj, ← hfront]
      simp
    · cases h
  · rintro rfl
    simp

namespace Scope

variable {s : Scope} {suffix : Suffix}

/-! ## Names and owners -/

theorem eq_aborted_of_freshName {stem : String} {halt : Halt}
    (h : freshName stem suffix = .error halt) : halt = .aborted := by
  unfold freshName at h
  split at h
  · cases h
  · exact (Except.error.inj h).symm

/-- Whether a name can be made is up to the stem. -/
theorem exists_freshName_iff {stem : String} :
    (∃ name, freshName stem suffix = .ok name) ↔
      (GeneratedName.takeBytes? (GeneratedName.maxBytes - GeneratedName.suffixBytes)
        (stem ++ "-").toList).isSome = true := by
  unfold freshName GeneratedName.make?
  cases GeneratedName.takeBytes? _ (stem ++ "-").toList <;> simp

/-- The control plane can be named as an owner. -/
def IsNamed (s : Scope) : Prop := ∃ name uid,
  s.controlPlane.metadata.name = some name ∧ s.controlPlane.metadata.uid = some uid

theorem isNamed_of_owner {controller : Bool} {r : OwnerReference}
    (h : s.owner controller = .ok r) : s.IsNamed := by
  unfold owner ControlPlane.ownerReference? Metadata.ownerReference? at h
  cases hname : s.controlPlane.metadata.name with
  | none => simp [hname] at h
  | some name =>
    cases huid : s.controlPlane.metadata.uid with
    | none => simp [hname, huid] at h
    | some uid => exact ⟨name, uid, hname, huid⟩

theorem owner_eq_error {controller : Bool} {halt : Halt} (h : s.owner controller = .error halt) :
    ∃ message, halt = .failed (.internal "provisioner" message) := by
  unfold owner at h
  split at h
  · cases h
  · exact ⟨_, (Except.error.inj h).symm⟩

theorem IsNamed.owner_eq (h : s.IsNamed) (controller : Bool) :
    ∃ name uid, s.controlPlane.metadata.uid = some uid ∧
      s.owner controller = .ok ⟨Kind.controlPlane.apiVersion,
        if controller then some true else none, if controller then some true else none,
        Kind.controlPlane.name, name, uid⟩ := by
  obtain ⟨name, uid, hname, huid⟩ := h
  refine ⟨name, uid, huid, ?_⟩
  simp only [owner, ControlPlane.ownerReference?, Metadata.ownerReference?, hname, huid]

/-! ## The blueprints -/

/-- A kind of template is the kind of an object with the ending of templates
behind it. -/
theorem clonedKind?_eq_some_iff {template kind : String} :
    clonedKind? template = some kind ↔ kind ≠ "" ∧ template = kind ++ templateEnding := by
  rw [clonedKind?, Option.filter_eq_some_iff, Text.dropSuffix?_eq_some_iff, Bool.not_eq_true',
    ← Bool.not_eq_true, Text.isEmpty_iff]
  exact And.comm

/-- A finished clone has the kind that the template describes, a fresh name,
and the namespace of the control plane. -/
theorem infrastructureClone_eq_ok {templateRef : Reference} {template o : Unstructured}
    (h : s.infrastructureClone suffix templateRef template = .ok o) :
    ∃ kind name, clonedKind? templateRef.kind = some kind ∧
      freshName templateRef.name suffix = .ok name ∧ s.IsNamed ∧
      o.kind = some ⟨templateRef.apiVersion, kind⟩ ∧ o.metadata.name = some name ∧
      o.metadata.ns = some s.ns := by
  unfold infrastructureClone at h
  dsimp only at h
  split at h
  · split at h
    next kind hkind =>
      cases hname : freshName templateRef.name suffix with
      | error halt => simp [hname, bind, Except.bind] at h
      | ok name =>
        cases howner : s.owner false with
        | error halt => simp [hname, howner, bind, Except.bind] at h
        | ok r =>
          simp only [hname, howner, bind, Except.bind, pure, Except.pure] at h
          cases h
          exact ⟨kind, name, hkind, rfl, isNamed_of_owner howner, rfl, rfl, rfl⟩
    · cases h
  · cases h

/-- A template that can be cloned: it has an inner specification, and a kind of
templates. -/
structure IsTemplate (templateRef : Reference) (template : Unstructured) : Prop where
  inner : ∃ inner, (template.data.lookup "spec").bind (Json.get? "template") = some inner
  kind : ∃ kind, kind ≠ "" ∧ templateRef.kind = kind ++ templateEnding

theorem isTemplate_of_infrastructureClone {templateRef : Reference} {template o : Unstructured}
    (h : s.infrastructureClone suffix templateRef template = .ok o) :
    IsTemplate templateRef template := by
  unfold infrastructureClone at h
  dsimp only at h
  split at h
  next inner hinner =>
    split at h
    next kind hkind => exact ⟨⟨inner, hinner⟩, kind, clonedKind?_eq_some_iff.mp hkind⟩
    · cases h
  · cases h

/-- What cannot be cloned breaks a rule; otherwise only the owner can be
missing, or a name. -/
theorem infrastructureClone_eq_error {templateRef : Reference} {template : Unstructured}
    {halt : Halt}
    (h : s.infrastructureClone suffix templateRef template = .error halt) :
    ¬ IsTemplate templateRef template ∧
        (∃ message field, halt = .failed (.validation templateRef.describe message field)) ∨
      IsTemplate templateRef template ∧
        (halt = .aborted ∨ ∃ message, halt = .failed (.internal "provisioner" message)) := by
  unfold infrastructureClone at h
  dsimp only at h
  split at h
  next inner hinner =>
    split at h
    next kind hkind =>
      refine .inr ⟨⟨⟨inner, hinner⟩, kind, clonedKind?_eq_some_iff.mp hkind⟩, ?_⟩
      cases hname : freshName templateRef.name suffix with
      | error halt' =>
        simp only [hname, bind, Except.bind] at h
        cases h
        exact .inl (eq_aborted_of_freshName hname)
      | ok name =>
        cases howner : s.owner false with
        | error halt' =>
          simp only [hname, howner, bind, Except.bind] at h
          cases h
          exact .inr (owner_eq_error howner)
        | ok r => simp [hname, howner, bind, Except.bind, pure, Except.pure] at h
    next hkind =>
      cases h
      refine .inl ⟨fun ⟨_, kind, hne, hending⟩ => ?_, _, _, rfl⟩
      exact hkind kind (clonedKind?_eq_some_iff.mpr ⟨hne, hending⟩)
  next hinner =>
    cases h
    exact .inl ⟨fun ⟨⟨inner, h⟩, _⟩ => hinner inner h, _, _, rfl⟩

/-- A named control plane clones what is a template. -/
theorem exists_infrastructureClone {templateRef : Reference} {template : Unstructured}
    {inner : Json} {kind name : String} (hnamed : s.IsNamed)
    (hinner : (template.data.lookup "spec").bind (Json.get? "template") = some inner)
    (hkind : clonedKind? templateRef.kind = some kind)
    (hname : freshName templateRef.name suffix = .ok name) :
    ∃ o, s.infrastructureClone suffix templateRef template = .ok o := by
  obtain ⟨_, _, -, howner⟩ := hnamed.owner_eq false
  simp [infrastructureClone, hinner, hkind, hname, howner, bind, Except.bind, pure, Except.pure]

/-- Finished settings have a fresh name and the namespace of the control plane. -/
theorem bootstrapConfig_eq_ok {agentConfig : AgentConfig} {c : BootstrapConfig}
    (h : s.bootstrapConfig suffix agentConfig = .ok c) :
    ∃ name, freshName s.name suffix = .ok name ∧ c.metadata.name = some name ∧
      c.metadata.ns = some s.ns := by
  unfold bootstrapConfig at h
  cases hname : freshName s.name suffix with
  | error halt => simp [hname, bind, Except.bind] at h
  | ok name =>
    cases howner : s.owner false with
    | error halt => simp [hname, howner, bind, Except.bind] at h
    | ok r =>
      simp only [hname, howner, bind, Except.bind, pure, Except.pure] at h
      cases h
      exact ⟨name, rfl, rfl, rfl⟩

theorem exists_bootstrapConfig {agentConfig : AgentConfig} {name : String} (hnamed : s.IsNamed)
    (hname : freshName s.name suffix = .ok name) :
    ∃ c, s.bootstrapConfig suffix agentConfig = .ok c := by
  obtain ⟨_, _, -, howner⟩ := hnamed.owner_eq false
  simp [bootstrapConfig, hname, howner, bind, Except.bind, pure, Except.pure]

theorem eq_aborted_of_bootstrapConfig {agentConfig : AgentConfig} {halt : Halt}
    (hnamed : s.IsNamed) (h : s.bootstrapConfig suffix agentConfig = .error halt) :
    halt = .aborted := by
  obtain ⟨_, _, -, howner⟩ := hnamed.owner_eq false
  unfold bootstrapConfig at h
  cases hname : freshName s.name suffix with
  | error halt' =>
    simp only [hname, bind, Except.bind] at h
    cases h
    exact eq_aborted_of_freshName hname
  | ok name => simp [hname, howner, bind, Except.bind, pure, Except.pure] at h

/-- A finished machine. -/
theorem newMachine_eq_ok {infrastructure bootstrap : Reference} {failureDomain : Option String}
    {m : Machine} (h : s.newMachine suffix infrastructure bootstrap failureDomain = .ok m) :
    ∃ name owner, freshName s.name suffix = .ok name ∧ s.owner true = .ok owner ∧
      m.metadata = { Metadata.named name with
        ns := some s.ns
        labels := some (Labels.ofMember s.clusterName)
        ownerReferences := some [owner]
        annotations := some (.ofList
          [(Labels.serverConfiguration, s.controlPlane.spec.serverConfig.snapshot)]) } ∧
      m.spec = {
        clusterName := s.clusterName
        bootstrap := ⟨some bootstrap, none⟩
        infrastructureRef := infrastructure
        version := some (Release.version s.controlPlane.spec.version)
        failureDomain := failureDomain
        nodeDrainTimeout := s.controlPlane.spec.nodeDrainTimeout } ∧
      m.status = none := by
  unfold newMachine at h
  cases hname : freshName s.name suffix with
  | error halt => simp [hname, bind, Except.bind] at h
  | ok name =>
    cases howner : s.owner true with
    | error halt => simp [hname, howner, bind, Except.bind] at h
    | ok r =>
      simp only [hname, howner, bind, Except.bind, pure, Except.pure] at h
      cases h
      exact ⟨name, r, rfl, rfl, rfl, rfl, rfl⟩

/-- A finished machine is managed by the control plane. -/
theorem manages_of_newMachine {infrastructure bootstrap : Reference}
    {failureDomain : Option String} {m : Machine}
    (h : s.newMachine suffix infrastructure bootstrap failureDomain = .ok m) :
    s.controlPlane.manages m = true := by
  obtain ⟨name, r, -, howner, hmetadata, -⟩ := newMachine_eq_ok h
  obtain ⟨_, uid, huid, hr⟩ := (isNamed_of_owner howner).owner_eq true
  obtain rfl : r = _ := Except.ok.inj (howner.symm.trans hr)
  simp [ControlPlane.manages, Metadata.isControlledBy, Metadata.owners, hmetadata, huid]

theorem exists_newMachine {infrastructure bootstrap : Reference} {failureDomain : Option String}
    {name : String} (hnamed : s.IsNamed) (hname : freshName s.name suffix = .ok name) :
    ∃ m, s.newMachine suffix infrastructure bootstrap failureDomain = .ok m := by
  obtain ⟨_, _, -, howner⟩ := hnamed.owner_eq true
  simp [newMachine, hname, howner, bind, Except.bind, pure, Except.pure]

theorem eq_aborted_of_newMachine {infrastructure bootstrap : Reference}
    {failureDomain : Option String} {halt : Halt} (hnamed : s.IsNamed)
    (h : s.newMachine suffix infrastructure bootstrap failureDomain = .error halt) :
    halt = .aborted := by
  obtain ⟨_, _, -, howner⟩ := hnamed.owner_eq true
  unfold newMachine at h
  cases hname : freshName s.name suffix with
  | error halt' =>
    simp only [hname, bind, Except.bind] at h
    cases h
    exact eq_aborted_of_freshName hname
  | ok name => simp [hname, howner, bind, Except.bind, pure, Except.pure] at h

end Scope

end Roster
