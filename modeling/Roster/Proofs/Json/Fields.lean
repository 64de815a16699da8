/-
Roster.Proofs.Json.Fields — records are read back field by field.

Whatever a record leaves out when it is written, every field has a slot:
its key, and its value if it is written.  `record?_ofSlots` says that a
reader finds in every slot what was put there.  What a field reads from
its slot is one lemma for every way to write a field
(`required_slot`, `optional_slot`, `list_slot`, `dict_slot`, `flag_slot`),
given that the reading of its values undoes their writing (`Undoes`).
-/
import Roster.Object.Configuration
import Roster.Proofs.Json.Records
import Roster.Proofs.Keyed

namespace Roster

variable {α : Type}

/-! ## Slots -/

/-- The field of a record: its key, and its value if it is written. -/
abbrev Slot := String × Option Json

/-- The entry of a slot, if it is filled. -/
def Slot.entries (s : Slot) : List (String × Json) := (s.2.map fun v => (s.1, v)).toList

/-- An object with the filled slots of a record. -/
def Json.ofSlots (slots : List Slot) : Json := .object (slots.flatMap Slot.entries)

/-- What a slot is filled with. -/
def Slot.find (slots : List Slot) (key : String) : Option Document :=
  ((slots.lookup key).bind id).map Json.toDocument

theorem Slot.find_cons (key k : String) (o : Option Json) (slots : List Slot) :
    Slot.find ((k, o) :: slots) key =
      if key = k then o.map Json.toDocument else Slot.find slots key := by
  by_cases h : key = k
  · subst h
    simp [Slot.find]
  · have hne : (key == k) = false := by simpa using h
    simp [Slot.find, List.lookup_cons, hne, h]

theorem always_eq (key : String) (v : Json) : always key v = Slot.entries (key, some v) := rfl

theorem whenSome_eq (key : String) (encode : α → Json) (o : Option α) :
    whenSome key encode o = Slot.entries (key, o.map encode) := by cases o <;> rfl

/-- The value of a list that is written only when it has items. -/
def Slot.list (encode : α → Json) : List α → Option Json
  | [] => none
  | l => some (.list (l.map encode))

theorem whenNonempty_eq (key : String) (encode : α → Json) (l : List α) :
    whenNonempty key encode l = Slot.entries (key, Slot.list encode l) := by cases l <;> rfl

/-- The value of a map that is written only when it has entries. -/
def Slot.dict (encode : α → Json) (d : Dict α) : Option Json :=
  if d.isEmpty then none else some (.object (d.toList.map fun e => (e.1, encode e.2)))

theorem unlessEmpty_eq (key : String) (encode : α → Json) (d : Dict α) :
    (if d.isEmpty then [] else
      always key (.object (d.toList.map fun e => (e.1, encode e.2)))) =
      Slot.entries (key, Slot.dict encode d) := by
  unfold Slot.dict
  split <;> rfl

/-- The value of a flag that is written only when it is set. -/
def Slot.flag : Bool → Option Json
  | false => none
  | true => some (.bool true)

theorem whenTrue_eq (key : String) (b : Bool) :
    whenTrue key b = Slot.entries (key, Slot.flag b) := by cases b <;> rfl

/-! ## Finding slots again -/

namespace Document

theorem map_fst_entryDocuments (entries : List (String × Json)) :
    (Json.entryDocuments entries).map Prod.fst = (entries.map Prod.fst).map some := by
  induction entries with
  | nil => rfl
  | cons e es ih => simp [Json.entryDocuments, ih]

theorem valueOf?_entryDocuments (entries : List (String × Json)) (key : String) :
    valueOf? (Json.entryDocuments entries) key =
      (entries.find? (·.1 == key)).map fun e => e.2.toDocument := by
  induction entries with
  | nil => rfl
  | cons e es ih =>
    rw [Json.entryDocuments, valueOf?_cons, ih]
    by_cases h : e.1 = key <;> simp [h]

/-- The keys of slots occur once when the slots are different. -/
theorem nodup_slots {slots : List Slot} (h : (slots.map Prod.fst).Nodup) :
    ((slots.flatMap Slot.entries).map Prod.fst).Nodup := by
  have hsub : ((slots.flatMap Slot.entries).map Prod.fst).Sublist (slots.map Prod.fst) := by
    clear h
    induction slots with
    | nil => exact .slnil
    | cons s rest ih =>
      obtain ⟨key, _ | v⟩ := s
      · exact ih.cons key
      · exact ih.cons_cons key
  exact hsub.nodup h

theorem find?_slots {slots : List Slot} (h : (slots.map Prod.fst).Nodup) (key : String) :
    ((slots.flatMap Slot.entries).find? (·.1 == key)).map (fun e => e.2.toDocument) =
      Slot.find slots key := by
  induction slots with
  | nil => rfl
  | cons s rest ih =>
    obtain ⟨hnot, hrest⟩ := List.nodup_cons.mp h
    obtain ⟨k, o⟩ := s
    have ih := ih hrest
    by_cases hk : k = key
    · subst hk
      cases o with
      | some v => simp [Slot.entries, Slot.find]
      | none =>
        -- No later slot has the key.
        have hlater : ∀ e ∈ rest.flatMap Slot.entries, ¬(e.1 == k) = true := by
          intro e he hek
          obtain ⟨s, hs, hes⟩ := List.mem_flatMap.mp he
          have hse : s.1 = e.1 := by
            obtain ⟨v, -, rfl⟩ : ∃ v, s.2 = some v ∧ (s.1, v) = e := by
              simpa [Slot.entries] using hes
            rfl
          exact hnot (List.mem_map.mpr ⟨s, hs, hse.trans (by simpa using hek)⟩)
        have hnone := List.find?_eq_none.mpr hlater
        simp [Slot.entries, Slot.find, hnone]
    · have hlookup : Slot.find ((k, o) :: rest) key = Slot.find rest key := by
        rw [Slot.find_cons, if_neg (Ne.symm hk)]
      rw [hlookup, ← ih]
      cases o <;> simp [Slot.entries, hk]

/-- A reader finds in every slot what was put there. -/
theorem record?_ofSlots (slots : List Slot) (fields : List String)
    (hslots : slots.map Prod.fst = fields) (hfields : fields.Nodup) :
    (Json.ofSlots slots).toDocument.record? fields = some (Slot.find slots) := by
  have h : (slots.map Prod.fst).Nodup := hslots ▸ hfields
  have hkeys : WellKeyed fields
      ((Json.entryDocuments (slots.flatMap Slot.entries)).map Prod.fst) := by
    rw [map_fst_entryDocuments]
    refine ⟨by simp, fun f _ => ?_⟩
    rw [List.count_map_of_injective _ _ (Option.some_injective _)]
    exact List.nodup_iff_count.mp (nodup_slots h) f
  have hvalue : valueOf? (Json.entryDocuments (slots.flatMap Slot.entries)) =
      Slot.find slots := by
    funext key
    rw [valueOf?_entryDocuments, find?_slots h]
  rw [Json.ofSlots, Json.toDocument, record?_object, if_pos hkeys, hvalue]

/-- Reading a record is reading its slots. -/
theorem bind_record?_ofSlots (slots : List Slot) (fields : List String)
    (hslots : slots.map Prod.fst = fields) (hfields : fields.Nodup)
    (read : (String → Option Document) → Option α) :
    ((Json.ofSlots slots).toDocument.record? fields >>= read) = read (Slot.find slots) := by
  rw [record?_ofSlots slots fields hslots hfields]
  rfl

end Document

/-! ## Reading fields -/

/-- A reading that undoes a writing. -/
def Undoes (decode : Decoder α) (encode : α → Json) : Prop :=
  ∀ a, decode (encode a).toDocument = some a

theorem undoes_text : Undoes Decode.text Json.text := fun _ => rfl

theorem undoes_bool : Undoes Decode.bool Json.bool := fun _ => rfl

theorem allItems_map {decode : Decoder α} {encode : α → Json} {l : List α}
    (h : ∀ a ∈ l, decode (encode a).toDocument = some a) :
    Decode.allItems decode (Json.itemDocuments (l.map encode)) = some l := by
  induction l with
  | nil => rfl
  | cons a rest ih =>
    obtain ⟨ha, hrest⟩ := List.forall_mem_cons.mp h
    simp [Json.itemDocuments, Decode.allItems, ha, ih hrest]

theorem allEntries_map {decode : Decoder α} {encode : α → Json} (h : Undoes decode encode)
    (l : List (String × α)) :
    Decode.allEntries decode (Json.entryDocuments (l.map fun e => (e.1, encode e.2))) =
      some l := by
  induction l with
  | nil => rfl
  | cons e rest ih => simp [Json.entryDocuments, Decode.allEntries, h e.2, ih]

/-- A map is read back: its entries were in order already. -/
theorem undoes_dict {decode : Decoder α} {encode : α → Json} (h : Undoes decode encode) :
    Undoes (Decode.dict decode)
      fun d : Dict α => .object (d.toList.map fun e => (e.1, encode e.2)) := by
  intro d
  rw [Json.toDocument, Decode.dict, allEntries_map h]
  exact congrArg some (Keyed.ofList_toList d)

theorem undoes_int32 : Undoes Decode.int32 fun n => .int n.toInt := by
  intro n
  have hrange : -2147483648 ≤ n.toInt ∧ n.toInt ≤ 2147483647 :=
    ⟨n.le_toInt, Int.le_of_lt_add_one n.toInt_lt⟩
  show Decode.int32 (.number (some (.int n.toInt))) = some n
  rw [Decode.int32, Decode.intBetween, if_pos hrange, Option.map_some, n.ofInt_toInt]

theorem undoes_int64 : Undoes Decode.int64 fun n => .int n.toInt := by
  intro n
  have hrange : -9223372036854775808 ≤ n.toInt ∧ n.toInt ≤ 9223372036854775807 :=
    ⟨n.le_toInt, Int.le_of_lt_add_one n.toInt_lt⟩
  show Decode.int64 (.number (some (.int n.toInt))) = some n
  rw [Decode.int64, Decode.intBetween, if_pos hrange, Option.map_some, n.ofInt_toInt]

/-- A field that has to be there. -/
theorem required_slot {decode : Decoder α} {encode : α → Json} (h : Undoes decode encode)
    (a : α) : Decode.required decode ((some (encode a)).map Json.toDocument) = some a := h a

/-- A field that is always written, and has a value of its own when it is
missing. -/
theorem defaulted_slot {decode : Decoder α} {encode : α → Json} (h : Undoes decode encode)
    (fallback a : α) :
    Decode.defaulted fallback decode ((some (encode a)).map Json.toDocument) = some a := h a

/-- A field that may be missing; its values are never written as null. -/
theorem optional_slot {decode : Decoder α} {encode : α → Json} {o : Option α}
    (h : ∀ a ∈ o, decode (encode a).toDocument = some a)
    (hnull : ∀ a, (encode a).toDocument ≠ .null) :
    Decode.optional decode ((o.map encode).map Json.toDocument) = some o := by
  cases o with
  | none => rfl
  | some a =>
    have hread : Decode.nullable decode (encode a).toDocument =
        (decode (encode a).toDocument).map some := by
      unfold Decode.nullable
      split
      next hdoc => exact absurd hdoc (hnull a)
      · rfl
    exact hread.trans (by rw [h a rfl]; rfl)

theorem optionalText_slot (o : Option String) :
    Decode.optionalText ((o.map Json.text).map Json.toDocument) = some o :=
  optional_slot (fun a _ => undoes_text a) fun _ => nofun

/-- A list that is missing when it has no items. -/
theorem list_slot {decode : Decoder α} {encode : α → Json} {l : List α}
    (h : ∀ a ∈ l, decode (encode a).toDocument = some a) :
    Decode.defaulted [] (Decode.list decode) ((Slot.list encode l).map Json.toDocument) =
      some l := by
  cases l with
  | nil => rfl
  | cons a rest => exact allItems_map h

theorem texts_slot (l : List String) :
    Decode.texts ((Slot.list Json.text l).map Json.toDocument) = some l :=
  list_slot fun a _ => undoes_text a

/-- A map that is missing when it has no entries. -/
theorem dict_slot {decode : Decoder α} {encode : α → Json} (h : Undoes decode encode)
    (d : Dict α) :
    Decode.defaulted .empty (Decode.dict decode) ((Slot.dict encode d).map Json.toDocument) =
      some d := by
  unfold Slot.dict
  split
  next hd =>
    have hempty : d = .empty := Keyed.eq_empty_of_isEmpty hd
    rw [hempty]
    rfl
  · exact undoes_dict h d

/-- A flag that is missing when it is not set. -/
theorem flag_slot (b : Bool) : Decode.flag ((Slot.flag b).map Json.toDocument) = some b := by
  cases b <;> rfl

end Roster
