/-
Roster.Proofs.Selector — a member that was created is seen again.

Members are looked for in two ways.  The watch cache is filtered by a
condition on machines, and the source is sent a label selector, a text.
`Selector.read` says what such a text means: requirements that must all
hold, between commas, each of a label's value or of a label alone.  The two
ways agree on every machine as long as the name of the cluster has no
character that means something in a selector, and both find the machines
that a control plane makes.

The proof reads the selector back from its text (`Selector.read_render`).
-/
import Roster.Api.Store
import Roster.Proofs.Blueprint
import Roster.Proofs.Keyed
import Roster.Proofs.Splitting
import Roster.Sample

namespace Roster

/-! ## Label selectors -/

namespace Selector

/-- What a selector asks of labels. -/
inductive Requirement where
  /-- A label has a value. -/
  | equals (key value : String)
  /-- There is a label, whatever its value. -/
  | present (key : String)
  deriving DecidableEq, Repr

namespace Requirement

/-- Whether labels meet a requirement. -/
def isMet (labels : Dict String) : Requirement → Bool
  | .equals key value => labels.lookup key == some value
  | .present key => (labels.lookup key).isSome

/-- A requirement as text. -/
def render : Requirement → String
  | .equals key value => key ++ "=" ++ value
  | .present key => key

/-- The requirement that characters spell. -/
def read (cs : List Char) : Requirement :=
  match Text.splitFirst? '=' cs with
  | some (key, value) => .equals (String.ofList key) (String.ofList value)
  | none => .present (String.ofList cs)

/-- Nothing in a requirement would be taken for a mark of the language. -/
def IsPlain : Requirement → Prop
  | .equals key value => '=' ∉ key.toList ∧ ',' ∉ key.toList ∧ ',' ∉ value.toList
  | .present key => '=' ∉ key.toList ∧ ',' ∉ key.toList

variable {r : Requirement}

theorem IsPlain.read_render (h : r.IsPlain) : read r.render.toList = r := by
  cases r with
  | equals key value =>
    have hchars : (render (.equals key value)).toList = key.toList ++ '=' :: value.toList := by
      simp [render]
    rw [read, hchars, Text.splitFirst?_append h.1]
    simp
  | present key =>
    rw [read, render, Text.splitFirst?_of_not_mem h.1]
    simp

theorem IsPlain.not_mem_render (h : r.IsPlain) : ',' ∉ r.render.toList := by
  cases r with
  | equals key value => simp [render, h.2.1, h.2.2]
  | present key => exact h.2

end Requirement

/-- A selector as text. -/
def render (requirements : List Requirement) : String :=
  Text.join "," (requirements.map Requirement.render)

/-- The requirements that a text spells. -/
def read (text : String) : List Requirement :=
  (Text.parts ',' text.toList).map Requirement.read

/-- Whether labels meet all that a selector asks of them. -/
def selects (text : String) (labels : Dict String) : Bool :=
  (read text).all fun r => r.isMet labels

/-- A selector reads back what was written. -/
theorem read_render {requirements : List Requirement} (hne : requirements ≠ [])
    (hplain : ∀ r ∈ requirements, r.IsPlain) : read (render requirements) = requirements := by
  induction requirements with
  | nil => exact absurd rfl hne
  | cons r rest ih =>
    have hr := hplain r List.mem_cons_self
    cases rest with
    | nil =>
      rw [read, render, List.map_singleton, Text.join, Text.parts_of_not_mem hr.not_mem_render,
        List.map_singleton, hr.read_render]
    | cons r' rest =>
      -- The first comma is the one after the first requirement, which has none itself.
      have hrest := ih (List.cons_ne_nil _ _) fun x hx => hplain x (List.mem_cons_of_mem _ hx)
      have hchars : (render (r :: r' :: rest)).toList =
          r.render.toList ++ ',' :: (render (r' :: rest)).toList := by
        simp [render, Text.join]
      rw [read, hchars, Text.parts_append hr.not_mem_render, List.map_cons, hr.read_render]
      exact congrArg (r :: ·) hrest

/-- Whether a character may stand in the value of a label. -/
def isValueChar (c : Char) : Bool :=
  Text.isAlphanumeric c || c == '-' || c == '_' || c == '.'

theorem memberSelector_eq_render (cluster : String) : Labels.memberSelector cluster =
    render [.equals Labels.clusterName cluster, .present Labels.controlPlane] := by
  simp only [Labels.memberSelector, render, List.map_cons, List.map_nil, Requirement.render,
    Text.join]

/-- The selector of members asks for the name of the cluster and for the mark of
members. -/
theorem read_memberSelector {cluster : String} (h : cluster.toList.all isValueChar = true) :
    read (Labels.memberSelector cluster) =
      [.equals Labels.clusterName cluster, .present Labels.controlPlane] := by
  have hcomma : ',' ∉ cluster.toList := fun hmem =>
    absurd (List.all_eq_true.mp h ',' hmem) (by decide)
  rw [memberSelector_eq_render]
  refine read_render (List.cons_ne_nil _ _) fun r hr => ?_
  obtain rfl | rfl : r = .equals Labels.clusterName cluster ∨ r = .present Labels.controlPlane := by
    simpa using hr
  · exact ⟨by decide, by decide, hcomma⟩
  · exact ⟨by decide, by decide⟩

end Selector

/-! ## Members by their labels -/

/-- The condition on cached machines says what the selector asks for. -/
theorem Api.isMemberOf_iff_selects {ns cluster : String} {m : Machine}
    (h : cluster.toList.all Selector.isValueChar = true) :
    Api.isMemberOf ns cluster m = true ↔ m.ns = ns ∧
      Selector.selects (Labels.memberSelector cluster) (m.metadata.labels.getD .empty) = true := by
  have hlabel (key : String) :
      m.metadata.label? key = (m.metadata.labels.getD .empty).lookup key := by
    unfold Metadata.label?
    cases m.metadata.labels <;> rfl
  simp [Api.isMemberOf, Selector.selects, Selector.read_memberSelector h,
    Selector.Requirement.isMet, hlabel, and_assoc]

namespace Scope

variable {s : Scope} {suffix : Suffix} {infrastructure bootstrap : Reference}
  {failureDomain : Option String} {m : Machine}

theorem isMemberOf_of_newMachine
    (h : s.newMachine suffix infrastructure bootstrap failureDomain = .ok m) :
    Api.isMemberOf s.ns s.clusterName m = true := by
  obtain ⟨name, owner, -, -, hmetadata, -⟩ := newMachine_eq_ok h
  have hmark : (Labels.ofMember s.clusterName).lookup Labels.controlPlane = some "" :=
    Table.lookup_put.trans (if_pos rfl)
  have hcluster : (Labels.ofMember s.clusterName).lookup Labels.clusterName = some s.clusterName :=
    Table.lookup_put.trans ((if_neg (by decide)).trans (Table.lookup_put.trans (if_pos rfl)))
  simp [Api.isMemberOf, Metadata.label?, Typed.ns, Metadata.namespaceText, hmetadata, hmark,
    hcluster]

/-- In the cache and at the source the same machines count as members of a
cluster, and the machines that a control plane makes count as members and as its
own.  Making one fails only for want of a name. -/
theorem newMachine_is_seen {cluster : String}
    (hcluster : cluster.toList.all Selector.isValueChar = true) :
    (∀ ns m, Api.isMemberOf ns cluster m = true ↔ m.ns = ns ∧
      Selector.selects (Labels.memberSelector cluster) (m.metadata.labels.getD .empty) = true) ∧
    ∀ s : Scope, s.clusterName = cluster → s.IsNamed →
      ∀ suffix infrastructure bootstrap failureDomain,
        match s.newMachine suffix infrastructure bootstrap failureDomain with
        | .ok m => Api.isMemberOf s.ns cluster m = true ∧
            (m.ns = s.ns ∧ Selector.selects (Labels.memberSelector cluster)
              (m.metadata.labels.getD .empty) = true) ∧
            s.controlPlane.manages m = true
        | .error halt => halt = .aborted ∧ ∀ name, freshName s.name suffix ≠ .ok name := by
  refine ⟨fun ns m => Api.isMemberOf_iff_selects hcluster, ?_⟩
  rintro s rfl hnamed suffix infrastructure bootstrap failureDomain
  split
  next m hm =>
    have hcached := isMemberOf_of_newMachine hm
    exact ⟨hcached, (Api.isMemberOf_iff_selects hcluster).mp hcached, manages_of_newMachine hm⟩
  next halt hhalt =>
    refine ⟨eq_aborted_of_newMachine hnamed hhalt, fun name hname => ?_⟩
    obtain ⟨m, hm⟩ := exists_newMachine hnamed hname
    rw [hm] at hhalt
    cases hhalt

/-- The name of a cluster may have dots, dashes and underscores. -/
theorem newMachine_is_seen_prod :
    let cluster := "prod-1.eu_west"
    let s : Scope := ⟨Sample.controlPlane "cp" 1, Sample.cluster cluster ["az-1"], .empty⟩
    let template := s.controlPlane.spec.infrastructureRef
    cluster.toList.all Selector.isValueChar = true ∧ s.IsNamed ∧
      ∃ m, s.newMachine .first template template (some "az-1") = .ok m ∧
        Api.isMemberOf s.ns cluster m = true ∧ m.ns = "default" ∧
        Selector.selects (Labels.memberSelector cluster) (m.metadata.labels.getD .empty) = true ∧
        s.controlPlane.manages m = true := by
  intro cluster s template
  have hcluster : cluster.toList.all Selector.isValueChar = true := by decide
  have hnamed : s.IsNamed := ⟨"cp", Sample.controlPlaneUid, rfl, rfl⟩
  obtain ⟨name, hname⟩ : ∃ name, freshName s.name .first = .ok name :=
    exists_freshName_iff.mpr (by decide)
  obtain ⟨m, hm⟩ : ∃ m, s.newMachine .first template template (some "az-1") = .ok m :=
    exists_newMachine hnamed hname
  have hseen := (newMachine_is_seen hcluster).2 s rfl hnamed .first template template (some "az-1")
  rw [hm] at hseen
  obtain ⟨hcached, ⟨hns, hselects⟩, hmanages⟩ := hseen
  exact ⟨hcluster, hnamed, m, hm, hcached, hns, hselects, hmanages⟩

end Scope

end Roster
