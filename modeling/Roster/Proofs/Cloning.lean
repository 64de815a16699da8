/-
Roster.Proofs.Cloning — the object that a template describes, field by
field.

A clone is made of what the template says inside its specification and of
what the control plane adds.  `clone_follows_template` says which is which:
a template is cloned exactly when it has an inner part and a kind of
templates, what the control plane adds stands over what the template has
under the same key, and nothing else of the template gets through.

Labels and annotations are described by what is found under each key
(`Json.lastText?`, `Table.lookup_insertAll`), which is all that a table is.
-/
import Roster.Proofs.Blueprint
import Roster.Proofs.Keyed
import Roster.Sample

namespace Roster

/-- The text that an object has under a key; what is no text is passed over.  An
object that was read has every key once; of a repeated key the last text
counts. -/
def Json.lastText? (key : String) : Json → Option String
  | .object entries => (entries.filterMap fun e => if e.1 = key then e.2.text? else none).getLast?
  | _ => none

namespace Labels

/-- The labels of a member, key by key. -/
theorem lookup_ofMember (cluster key : String) : (ofMember cluster).lookup key =
    if key = clusterName then some cluster else if key = controlPlane then some "" else none := by
  have hne : controlPlane ≠ clusterName := by decide
  rw [ofMember, Table.lookup_ofList]
  by_cases hcluster : key = clusterName
  · subst hcluster
    simp [Table.lastOf, hne]
  · by_cases hplane : key = controlPlane
    · subst hplane
      simp [Table.lastOf, hne]
    · simp [Table.lastOf, hcluster, hplane, Ne.symm hcluster, Ne.symm hplane]

end Labels

namespace Scope

variable {s : Scope} {suffix : Suffix} {templateRef : Reference} {template : Unstructured}
  {inner : Json} {kind name : String} {owner : OwnerReference}

/-! ## Texts in a template -/

theorem lookup_textEntries (key : String) (j : Option Json) :
    (textEntries j).lookup key = j.bind (Json.lastText? key) := by
  unfold textEntries
  split
  next entries =>
    rw [Table.lookup_ofList, Table.lastOf, List.filterMap_filterMap, Option.bind_some,
      Json.lastText?]
    congr 2
    funext e
    cases e.2.text? <;> simp
  next hother =>
    cases j with
    | none => rfl
    | some j =>
      cases j with
      | object entries => exact absurd rfl (hother entries)
      | _ => rfl

/-- The labels of a member stand over the texts of a template. -/
theorem lookup_cloneLabels (cluster key : String) (j : Option Json) :
    Table.lookup ((textEntries j).insertAll (Labels.ofMember cluster).toList) key =
      if key = Labels.clusterName then some cluster
      else if key = Labels.controlPlane then some ""
      else j.bind (Json.lastText? key) := by
  rw [Table.lookup_insertAll_toList, Labels.lookup_ofMember, lookup_textEntries]
  split
  · rfl
  · split <;> rfl

/-- The annotations of a clone stand over the texts of a template. -/
theorem lookup_cloneAnnotations (template kind key : String) (j : Option Json) :
    Table.lookup ((textEntries j).insertAll
        [(Labels.clonedFromName, template), (Labels.clonedFromGroupKind, kind)]) key =
      if key = Labels.clonedFromName then some template
      else if key = Labels.clonedFromGroupKind then some kind
      else j.bind (Json.lastText? key) := by
  have hne : Labels.clonedFromGroupKind ≠ Labels.clonedFromName := by decide
  rw [Table.lookup_insertAll, lookup_textEntries]
  by_cases hname : key = Labels.clonedFromName
  · subst hname
    simp [Table.lastOf, hne]
  · by_cases hkind : key = Labels.clonedFromGroupKind
    · subst hkind
      simp [Table.lastOf, hne]
    · simp [Table.lastOf, hname, hkind, Ne.symm hname, Ne.symm hkind]

/-! ## The clone -/

/-- The part of a template that objects are made from. -/
def templateBody? (template : Unstructured) : Option Json :=
  (template.data.lookup "spec").bind (Json.get? "template")

/-- What a clone looks like. -/
theorem infrastructureClone_eq (hinner : templateBody? template = some inner)
    (hkind : clonedKind? templateRef.kind = some kind)
    (hname : freshName templateRef.name suffix = .ok name) (howner : s.owner false = .ok owner) :
    s.infrastructureClone suffix templateRef template = .ok {
      kind := some ⟨templateRef.apiVersion, kind⟩
      metadata := { Metadata.named name with
        ns := some s.ns
        labels := some ((textEntries (inner.path? ["metadata", "labels"])).insertAll
          (Labels.ofMember s.clusterName).toList)
        annotations := some ((textEntries (inner.path? ["metadata", "annotations"])).insertAll
          [(Labels.clonedFromName, templateRef.name),
            (Labels.clonedFromGroupKind, templateRef.objectKind.qualifiedName)])
        ownerReferences := some [owner] }
      data := .ofList [("spec", (inner.get? "spec").getD .emptyObject)] } := by
  rw [templateBody?] at hinner
  simp [infrastructureClone, hinner, hkind, hname, howner, bind, Except.bind, pure, Except.pure]

/-- The rule that a template breaks that cannot be cloned: it has an inner part,
and then a kind of templates. -/
def templateFault (templateRef : Reference) (template : Unstructured) : Error :=
  if (templateBody? template).isNone then
    .validation templateRef.describe "template has no spec.template" (some "spec.template")
  else
    .validation templateRef.describe
      ("kind " ++ templateRef.kind ++ " does not end in " ++ templateEnding) none

theorem infrastructureClone_of_no_body (h : templateBody? template = none) :
    s.infrastructureClone suffix templateRef template =
      .error (.failed (templateFault templateRef template)) := by
  rw [templateFault, h, Option.isNone_none, if_pos rfl]
  rw [templateBody?] at h
  simp [infrastructureClone, h]

theorem infrastructureClone_of_no_kind (hinner : templateBody? template = some inner)
    (h : clonedKind? templateRef.kind = none) :
    s.infrastructureClone suffix templateRef template =
      .error (.failed (templateFault templateRef template)) := by
  rw [templateFault, hinner, Option.isNone_some, if_neg Bool.false_ne_true]
  rw [templateBody?] at hinner
  simp [infrastructureClone, hinner, h]

theorem clonedKind?_eq_none_iff {template : String} :
    clonedKind? template = none ↔ ∀ kind, kind ≠ "" → template ≠ kind ++ "Template" := by
  rw [Option.eq_none_iff_forall_ne_some]
  simp only [ne_eq, clonedKind?_eq_some_iff, not_and, templateEnding]

/-- A control plane that has a name and a uid clones exactly the templates that
have an inner part and a kind of templates; any other template breaks a rule.
The clone has the kind that the template describes and the namespace of the
control plane.  Its labels are those of a member, and under other keys the
texts among the inner labels; its annotations name the template, and under
other keys are the texts among the inner annotations.  Its one owner is the
control plane, which does not manage it, and all it has besides is the inner
specification, or an empty one. -/
theorem clone_follows_template {uid own : String}
    (hname : s.controlPlane.metadata.name = some own)
    (huid : s.controlPlane.metadata.uid = some uid)
    (hfresh : freshName templateRef.name suffix = .ok name) :
    ((∃ halt, s.infrastructureClone suffix templateRef template = .error halt) ↔
      templateBody? template = none ∨
        ∀ kind, kind ≠ "" → templateRef.kind ≠ kind ++ "Template") ∧
    (∀ halt, s.infrastructureClone suffix templateRef template = .error halt →
      halt = .failed (templateFault templateRef template)) ∧
    ∀ inner kind, templateBody? template = some inner → kind ≠ "" →
      templateRef.kind = kind ++ "Template" → ∃ clone labels annotations,
        s.infrastructureClone suffix templateRef template = .ok clone ∧
        clone.kind = some ⟨templateRef.apiVersion, kind⟩ ∧
        clone.metadata = { Metadata.named name with
          ns := some s.ns
          labels := some labels
          annotations := some annotations
          ownerReferences := some
            [⟨Kind.controlPlane.apiVersion, none, none, Kind.controlPlane.name, own, uid⟩] } ∧
        (∀ key, labels.lookup key =
          if key = Labels.clusterName then some s.clusterName
          else if key = Labels.controlPlane then some ""
          else (inner.path? ["metadata", "labels"]).bind (Json.lastText? key)) ∧
        (∀ key, annotations.lookup key =
          if key = Labels.clonedFromName then some templateRef.name
          else if key = Labels.clonedFromGroupKind then
            some templateRef.objectKind.qualifiedName
          else (inner.path? ["metadata", "annotations"]).bind (Json.lastText? key)) ∧
        clone.data.toList = [("spec", (inner.get? "spec").getD (.object []))] := by
  have howner : s.owner false =
      .ok ⟨Kind.controlPlane.apiVersion, none, none, Kind.controlPlane.name, own, uid⟩ := by
    simp [owner, ControlPlane.ownerReference?, Metadata.ownerReference?, hname, huid]
  rw [← clonedKind?_eq_none_iff]
  cases hbody : templateBody? template with
  | none =>
    have herror : s.infrastructureClone suffix templateRef template =
        .error (.failed (templateFault templateRef template)) :=
      infrastructureClone_of_no_body hbody
    refine ⟨iff_of_true ⟨_, herror⟩ (.inl rfl), fun halt h => ?_, fun inner _ hinner => ?_⟩
    · exact (Except.error.inj (herror.symm.trans h)).symm
    · cases hinner
  | some inner =>
    cases hkind : clonedKind? templateRef.kind with
    | none =>
      have herror : s.infrastructureClone suffix templateRef template =
          .error (.failed (templateFault templateRef template)) :=
        infrastructureClone_of_no_kind hbody hkind
      refine ⟨iff_of_true ⟨_, herror⟩ (.inr rfl), fun halt h => ?_, fun _ kind _ hne hending => ?_⟩
      · exact (Except.error.inj (herror.symm.trans h)).symm
      · exact absurd hending (clonedKind?_eq_none_iff.mp hkind kind hne)
    | some kind =>
      have hclone := infrastructureClone_eq hbody hkind hfresh howner
      refine ⟨iff_of_false ?_ (by simp), fun halt h => ?_, ?_⟩
      · rintro ⟨halt, h⟩
        cases hclone.symm.trans h
      · cases hclone.symm.trans h
      · rintro _ kind' ⟨⟩ hne hending
        obtain rfl : kind = kind' := Option.some.inj
          (hkind.symm.trans (clonedKind?_eq_some_iff.mpr ⟨hne, hending⟩))
        exact ⟨_, _, _, hclone, rfl, rfl, fun key => lookup_cloneLabels _ key _,
          fun key => lookup_cloneAnnotations _ _ key _, rfl⟩

end Scope

/-- A template without an inner specification that claims the labels of another
cluster and another origin, and has entries that are no texts. -/
def Sample.claimingTemplate : Unstructured :=
  { template with
    data := .ofList [("spec", .object [("template", .object [("metadata", .object [
      ("annotations", .object [
        (Labels.clonedFromName, .text "nobody"), ("note", .null), ("owner", .text "platform")]),
      ("labels", .object [
        (Labels.clusterName, .text "elsewhere"), ("tier", .text "front"),
        ("weight", .int 3)])])])])] }

/-- What a template claims under the keys of the controller is overruled in the
clone, its other texts are taken over, and what is no text is left out. -/
theorem claiming_template_is_overruled :
    let s : Scope := ⟨Sample.controlPlane "cp" 1, Sample.cluster Sample.clusterName [], .empty⟩
    ∃ clone labels annotations,
      s.infrastructureClone .first s.controlPlane.spec.infrastructureRef
        Sample.claimingTemplate = .ok clone ∧
      clone.kind = some ⟨Sample.infrastructureVersion, "DockerMachine"⟩ ∧
      clone.metadata.labels = some labels ∧ clone.metadata.annotations = some annotations ∧
      labels.lookup Labels.clusterName = some "prod" ∧ labels.lookup "tier" = some "front" ∧
      labels.lookup "weight" = none ∧
      annotations.lookup Labels.clonedFromName = some "cp-template" ∧
      annotations.lookup "owner" = some "platform" ∧ annotations.lookup "note" = none ∧
      clone.data.toList = [("spec", .object [])] := by
  intro s
  obtain ⟨name, hfresh⟩ :
      ∃ name, Scope.freshName s.controlPlane.spec.infrastructureRef.name .first = .ok name :=
    Scope.exists_freshName_iff.mpr (by decide +kernel)
  have hbody : Scope.templateBody? Sample.claimingTemplate = some (.object [("metadata",
      .object [
        ("annotations", .object [
          (Labels.clonedFromName, .text "nobody"), ("note", .null), ("owner", .text "platform")]),
        ("labels", .object [
          (Labels.clusterName, .text "elsewhere"), ("tier", .text "front"),
          ("weight", .int 3)])])]) := rfl
  obtain ⟨clone, labels, annotations, hok, hkind, hmetadata, hlabels, hannotations, hdata⟩ :=
    (Scope.clone_follows_template (s := s) rfl rfl hfresh).2.2 _ "DockerMachine" hbody
      (by decide) rfl
  refine ⟨clone, labels, annotations, hok, hkind, by rw [hmetadata], by rw [hmetadata],
    (hlabels _).trans ?_, (hlabels _).trans ?_, (hlabels _).trans ?_,
    (hannotations _).trans ?_, (hannotations _).trans ?_, (hannotations _).trans ?_, hdata⟩
  all_goals decide +kernel

end Roster
