/-
Roster.Proofs.Settings — the groups of settings inside a document.

The settings of a server are four records: the settings themselves and the
groups nested in them.  Every group is read as a record
(`Group.readsRecord`), and the settings look at a group only through its own
reading, wherever its document stands (`Group.decode_fillAll`): what a
group cannot tell apart does not change the settings, and what a group
refuses is no document of settings.
-/
import Roster.Object.Configuration
import Roster.Proofs.Json.Tolerance

namespace Roster

open Decode Document

/-! ## Reading the fields of a group -/

section

variable {o o' : Option Document}

theorem texts_same (h : Option.Rel Same o o') : texts o = texts o' :=
  oblivious_text.list.defaulted [] h

theorem optionalText_same (h : Option.Rel Same o o') : optionalText o = optionalText o' :=
  oblivious_text.optional h

theorem flag_same (h : Option.Rel Same o o') : flag o = flag o' :=
  oblivious_bool.defaulted false h

end

theorem DisabledComponents.readsRecord : ReadsRecord fields decode := by
  refine readsRecord_bind _ fun g g' hg => ?_
  rw [texts_same (hg "kubernetesComponents" (by decide)),
    texts_same (hg "pluginComponents" (by decide))]

theorem BackupConfig.readsRecord : ReadsRecord fields decode := by
  refine readsRecord_bind _ fun g g' hg => ?_
  rw [optionalText_same (hg "scheduleCronSpec" (by decide)),
    optionalText_same (hg "retention" (by decide)), optionalText_same (hg "directory" (by decide))]

theorem EtcdConfig.readsRecord : ReadsRecord fields decode := by
  refine readsRecord_bind _ fun g g' hg => ?_
  rw [flag_same (hg "exposeMetrics" (by decide)),
    BackupConfig.readsRecord.oblivious.defaulted _ (hg "backupConfig" (by decide)),
    oblivious_text.dict.defaulted _ (hg "customConfig" (by decide))]

theorem ServerConfig.readsRecord : ReadsRecord fields decode := by
  refine readsRecord_bind _ fun g g' hg => ?_
  rw [texts_same (hg "tlsSan" (by decide)), optionalText_same (hg "cni" (by decide)),
    optionalText_same (hg "clusterDomain" (by decide)),
    optionalText_same (hg "cloudProviderName" (by decide)),
    DisabledComponents.readsRecord.oblivious.defaulted _ (hg "disableComponents" (by decide)),
    EtcdConfig.readsRecord.oblivious.defaulted _ (hg "etcd" (by decide))]

/-! ## Groups within groups -/

section

variable {α β γ : Type} {inner : Decoder β}

/-- A reading that looks at a document through another reading only, and needs
it to succeed. -/
def Through (inner : Decoder β) (outer : Decoder α) : Prop :=
  (∀ d, outer d = none) ∨ ∃ k : β → α, ∀ d, outer d = (inner d).map k

theorem Through.refl : Through inner inner := .inr ⟨id, fun d => by rw [Option.map_id, id]⟩

theorem Through.trans {outer : Decoder α} {middle : Decoder γ} {fill : Document → Document}
    (h : Through middle outer) (h' : Through inner fun d => middle (fill d)) :
    Through inner fun d => outer (fill d) := by
  obtain hnone | ⟨k, hk⟩ := h
  · exact .inl fun d => hnone (fill d)
  obtain hnone' | ⟨k', hk'⟩ := h'
  · exact .inl fun d => (hk (fill d)).trans (congrArg (Option.map k) (hnone' d))
  · refine .inr ⟨k ∘ k', fun d => ?_⟩
    dsimp only at hk' ⊢
    rw [hk, hk', Option.map_map]

/-- Something else may be read first. -/
theorem Through.after {outer : γ → Decoder α} (o : Option γ) (h : ∀ c, Through inner (outer c)) :
    Through inner fun d => o >>= fun c => outer c d := by
  cases o with
  | none => exact .inl fun _ => rfl
  | some c => exact h c

/-- Something else may be read behind. -/
theorem Through.before (o : Option γ) (k : β → γ → α) :
    Through inner fun d => inner d >>= fun b => o >>= fun c => pure (k b c) := by
  cases o with
  | none => exact .inl fun d => Option.bind_fun_none (inner d)
  | some c => exact .inr ⟨(k · c), fun d => (Option.map_eq_bind).symm⟩

theorem Through.last (k : β → α) : Through inner fun d => inner d >>= fun b => pure (k b) :=
  .inr ⟨k, fun _ => (Option.map_eq_bind).symm⟩

/-- A record is read through the reading of a field, as far as the entry with
its name is concerned. -/
theorem through_entry {fields : List String} {f : String} (hf : f ∈ fields)
    (read : (String → Option Document) → Option α)
    (h : ∀ g, Through inner fun x => read (Function.update g f (some x)))
    (front back : List (Option String × Document)) :
    Through inner fun x =>
      (.object (front ++ (some f, x) :: back) : Document).record? fields >>= read := by
  obtain hnone | ⟨g, hg⟩ := record?_entry hf front back
  · simp only [hnone]
    exact .inl fun _ => rfl
  · simp only [hg]
    exact h g

end

theorem EtcdConfig.through_backup (front back : List (Option String × Document)) :
    Through BackupConfig.decode fun x =>
      decode (.object (front ++ (some "backupConfig", x) :: back)) := by
  refine through_entry (show "backupConfig" ∈ fields by decide) _ (fun g => ?_) front back
  simp only [Function.update_apply, String.reduceEq, reduceIte, defaulted]
  exact .after _ fun _ => .before _ _

theorem ServerConfig.through_disabled (front back : List (Option String × Document)) :
    Through DisabledComponents.decode fun x =>
      decode (.object (front ++ (some "disableComponents", x) :: back)) := by
  refine through_entry (show "disableComponents" ∈ fields by decide) _ (fun g => ?_) front back
  simp only [Function.update_apply, String.reduceEq, reduceIte, defaulted]
  exact .after _ fun _ => .after _ fun _ => .after _ fun _ => .after _ fun _ => .before _ _

theorem ServerConfig.through_etcd (front back : List (Option String × Document)) :
    Through EtcdConfig.decode fun x => decode (.object (front ++ (some "etcd", x) :: back)) := by
  refine through_entry (show "etcd" ∈ fields by decide) _ (fun g => ?_) front back
  simp only [Function.update_apply, String.reduceEq, reduceIte, defaulted]
  exact .after _ fun _ => .after _ fun _ => .after _ fun _ => .after _ fun _ => .after _ fun _ =>
    .last _

/-! ## The groups -/

/-- The groups of a server's settings. -/
inductive SettingsGroup where
  | server
  | disabled
  | etcd
  | backup
  deriving DecidableEq, Repr

namespace SettingsGroup

/-- The settings in a group. -/
def Value : SettingsGroup → Type
  | server => ServerConfig
  | disabled => DisabledComponents
  | etcd => EtcdConfig
  | backup => BackupConfig

/-- The fields of a group. -/
def fields : SettingsGroup → List String
  | server => ServerConfig.fields
  | disabled => DisabledComponents.fields
  | etcd => EtcdConfig.fields
  | backup => BackupConfig.fields

/-- The reading of a group. -/
def decode : (group : SettingsGroup) → Decoder group.Value
  | server => ServerConfig.decode
  | disabled => DisabledComponents.decode
  | etcd => EtcdConfig.decode
  | backup => BackupConfig.decode

/-- The keys on the way to a group, the innermost one first. -/
def place : SettingsGroup → List (Option String)
  | server => []
  | disabled => [some "disableComponents"]
  | etcd => [some "etcd"]
  | backup => [some "backupConfig", some "etcd"]

theorem readsRecord (group : SettingsGroup) : ReadsRecord group.fields group.decode := by
  cases group with
  | server => exact ServerConfig.readsRecord
  | disabled => exact DisabledComponents.readsRecord
  | etcd => exact EtcdConfig.readsRecord
  | backup => exact BackupConfig.readsRecord

theorem exists_of_key? {layer : Layer} {key : String} (h : layer.key? = some key) :
    ∃ front back, layer = .entry front (some key) back := by
  cases layer with
  | item => cases h
  | entry front k back => exact ⟨front, back, by rw [← h]; rfl⟩

/-- The settings are read through the reading of each group. -/
theorem through_fillAll (group : SettingsGroup) {layers : List Layer}
    (h : layers.map Layer.key? = group.place) :
    Through group.decode fun d => ServerConfig.decode (fillAll layers d) := by
  cases group with
  | server =>
    obtain rfl := List.map_eq_nil_iff.mp h
    exact .refl
  | disabled =>
    obtain ⟨layer, rfl, hkey⟩ := List.map_eq_singleton_iff.mp h
    obtain ⟨front, back, rfl⟩ := exists_of_key? hkey
    exact ServerConfig.through_disabled front back
  | etcd =>
    obtain ⟨layer, rfl, hkey⟩ := List.map_eq_singleton_iff.mp h
    obtain ⟨front, back, rfl⟩ := exists_of_key? hkey
    exact ServerConfig.through_etcd front back
  | backup =>
    obtain ⟨layer, outer, rfl, hkey, houter⟩ := List.map_eq_cons_iff.mp h
    obtain ⟨layer', rfl, hkey'⟩ := List.map_eq_singleton_iff.mp houter
    obtain ⟨front, back, rfl⟩ := exists_of_key? hkey
    obtain ⟨front', back', rfl⟩ := exists_of_key? hkey'
    exact (ServerConfig.through_etcd front' back').trans (EtcdConfig.through_backup front back)

end SettingsGroup

end Roster
