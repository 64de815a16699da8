/-
Roster.Proofs.Snapshot — the settings that a machine records are read back.

`ServerConfig.ofSnapshot?_snapshot`: the text that is kept on a machine
gives back the settings it was made from, so a machine records them
exactly.  Every group of settings is read back from its slots; the text
level needs only that settings hold no numbers.
-/
import Roster.Proofs.Json.Fields
import Roster.Proofs.Json.Reading

namespace Roster

namespace DisabledComponents

/-- The slots of the disabled parts. -/
def slots (c : DisabledComponents) : List Slot :=
  [("kubernetesComponents", Slot.list .text c.kubernetes),
    ("pluginComponents", Slot.list .text c.plugins)]

theorem encode_eq (c : DisabledComponents) : c.encode = Json.ofSlots c.slots := by
  simp [encode, slots, Json.ofSlots, whenNonempty_eq]

theorem undoes : Undoes decode encode := by
  intro c
  rw [encode_eq, decode, Document.bind_record?_ofSlots c.slots fields rfl (by decide)]
  simp only [slots, Slot.find_cons, String.reduceEq, reduceIte, texts_slot]
  rfl

end DisabledComponents

namespace BackupConfig

/-- The slots of the backup settings. -/
def slots (c : BackupConfig) : List Slot :=
  [("scheduleCronSpec", c.schedule.map .text), ("retention", c.retention.map .text),
    ("directory", c.directory.map .text)]

theorem encode_eq (c : BackupConfig) : c.encode = Json.ofSlots c.slots := by
  simp [encode, slots, Json.ofSlots, whenSome_eq]

theorem undoes : Undoes decode encode := by
  intro c
  rw [encode_eq, decode, Document.bind_record?_ofSlots c.slots fields rfl (by decide)]
  simp only [slots, Slot.find_cons, String.reduceEq, reduceIte, optionalText_slot]
  rfl

end BackupConfig

namespace EtcdConfig

/-- What a map of texts is written as, unless it is empty. -/
def customSlot (d : Dict String) : Option Json :=
  if d.isEmpty then none else some (Dict.encodeTexts d)

theorem customSlot_read (d : Dict String) :
    Decode.defaulted .empty (Decode.dict Decode.text) ((customSlot d).map Json.toDocument) =
      some d := dict_slot undoes_text d

/-- The slots of the settings of the embedded store. -/
def slots (c : EtcdConfig) : List Slot :=
  [("exposeMetrics", Slot.flag c.exposeMetrics), ("backupConfig", some c.backup.encode),
    ("customConfig", customSlot c.custom)]

theorem encode_eq (c : EtcdConfig) : c.encode = Json.ofSlots c.slots := by
  have hcustom : (if c.custom.isEmpty then [] else
      always "customConfig" (Dict.encodeTexts c.custom)) =
      Slot.entries ("customConfig", customSlot c.custom) := unlessEmpty_eq _ Json.text c.custom
  rw [encode, hcustom]
  simp [slots, Json.ofSlots, whenTrue_eq, always_eq]

theorem undoes : Undoes decode encode := by
  intro c
  rw [encode_eq, decode, Document.bind_record?_ofSlots c.slots fields rfl (by decide)]
  simp only [slots, Slot.find_cons, String.reduceEq, reduceIte, flag_slot,
    defaulted_slot BackupConfig.undoes, customSlot_read]
  rfl

end EtcdConfig

namespace ServerConfig

/-- The slots of the server's settings. -/
def slots (c : ServerConfig) : List Slot :=
  [("tlsSan", Slot.list .text c.tlsSan), ("cni", c.cni.map .text),
    ("clusterDomain", c.clusterDomain.map .text),
    ("cloudProviderName", c.cloudProviderName.map .text),
    ("disableComponents", some c.disabled.encode), ("etcd", some c.etcd.encode)]

theorem encode_eq (c : ServerConfig) : c.encode = Json.ofSlots c.slots := by
  simp [encode, slots, Json.ofSlots, whenNonempty_eq, whenSome_eq, always_eq]

theorem undoes : Undoes decode encode := by
  intro c
  rw [encode_eq, decode, Document.bind_record?_ofSlots c.slots fields rfl (by decide)]
  simp only [slots, Slot.find_cons, String.reduceEq, reduceIte, texts_slot, optionalText_slot,
    defaulted_slot DisabledComponents.undoes, defaulted_slot EtcdConfig.undoes]
  rfl

end ServerConfig

/-! ## As text -/

/-- A slot whose value has no number in it. -/
def Slot.IsNumberFree (s : Slot) : Prop := ∀ v, s.2 = some v → v.isNumberFree = true

theorem ofSlots_isNumberFree {slots : List Slot} (h : ∀ s ∈ slots, s.IsNumberFree) :
    (Json.ofSlots slots).isNumberFree = true := by
  rw [Json.ofSlots, Json.isNumberFree, Json.entriesAreNumberFree_iff]
  intro e he
  obtain ⟨s, hs, hes⟩ := List.mem_flatMap.mp he
  obtain ⟨v, hv, rfl⟩ : ∃ v, s.2 = some v ∧ (s.1, v) = e := by simpa [Slot.entries] using hes
  exact h s hs v hv

theorem texts_isNumberFree (key : String) (l : List String) :
    Slot.IsNumberFree (key, Slot.list .text l) := by
  intro v hv
  cases l with
  | nil => cases hv
  | cons a rest =>
    cases hv
    rw [Json.isNumberFree, Json.itemsAreNumberFree_iff]
    intro j hj
    obtain ⟨s, -, rfl⟩ := List.mem_map.mp hj
    rfl

theorem text_isNumberFree (key : String) (o : Option String) :
    Slot.IsNumberFree (key, o.map .text) := by
  intro v hv
  obtain ⟨s, -, rfl⟩ := Option.map_eq_some_iff.mp hv
  rfl

theorem flag_isNumberFree (key : String) (b : Bool) : Slot.IsNumberFree (key, Slot.flag b) := by
  intro v hv
  cases b <;> cases hv
  rfl

theorem group_isNumberFree (key : String) {j : Json} (h : j.isNumberFree = true) :
    Slot.IsNumberFree (key, some j) := by
  intro v hv
  cases hv
  exact h

theorem EtcdConfig.custom_isNumberFree (key : String) (d : Dict String) :
    Slot.IsNumberFree (key, customSlot d) := by
  intro v hv
  unfold customSlot at hv
  split at hv
  · cases hv
  · cases hv
    rw [Dict.encodeTexts, Json.isNumberFree, Json.entriesAreNumberFree_iff]
    intro e he
    obtain ⟨x, -, rfl⟩ := List.mem_map.mp he
    rfl

/-- No setting of a server is a number. -/
theorem ServerConfig.encode_isNumberFree (c : ServerConfig) : c.encode.isNumberFree = true := by
  have hdisabled : c.disabled.encode.isNumberFree = true := by
    rw [DisabledComponents.encode_eq]
    exact ofSlots_isNumberFree (by simp [DisabledComponents.slots, texts_isNumberFree])
  have hbackup : c.etcd.backup.encode.isNumberFree = true := by
    rw [BackupConfig.encode_eq]
    exact ofSlots_isNumberFree (by simp [BackupConfig.slots, text_isNumberFree])
  have hetcd : c.etcd.encode.isNumberFree = true := by
    rw [EtcdConfig.encode_eq]
    exact ofSlots_isNumberFree (by simp [EtcdConfig.slots, flag_isNumberFree,
      group_isNumberFree _ hbackup, EtcdConfig.custom_isNumberFree])
  rw [encode_eq]
  exact ofSlots_isNumberFree (by simp [slots, texts_isNumberFree, text_isNumberFree,
    group_isNumberFree _ hdisabled, group_isNumberFree _ hetcd])

/-- The recorded text of settings gives them back. -/
theorem ServerConfig.ofSnapshot?_snapshot (c : ServerConfig) : ofSnapshot? c.snapshot = some c := by
  rw [ofSnapshot?, snapshot, Json.parse?_compact c.encode_isNumberFree]
  exact undoes c

end Roster
