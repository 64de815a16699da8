/-
Roster.Proofs.Json.Tolerance — what a reading of documents does not look at.

The order of the entries of an object that repeats no key does not matter,
for records and maps, wherever the object stands in the document
(`Reordered`): `Oblivious` is kept by all ways to build a reading from
others.  Records do not look at entries with other names either
(`ReadsRecord.add`).
-/
import Mathlib.Logic.Relation
import Roster.Proofs.Json.Places
import Roster.Proofs.Json.Records
import Roster.Proofs.Keyed

namespace Roster

variable {α : Type}

namespace Document

/-! ## Another order of entries -/

/-- Two documents that differ in the order of the entries of one object, no key
of which is repeated. -/
inductive Reordered : Document → Document → Prop
  | object {es es' : List (Option String × Document)} (hdistinct : (es.filterMap Prod.fst).Nodup)
      (hperm : es.Perm es') : Reordered (.object es) (.object es')
  | inside {d d' : Document} (layer : Layer) (h : Reordered d d') :
      Reordered (layer.fill d) (layer.fill d')

theorem Reordered.fillAll {d d' : Document} (h : Reordered d d') (layers : List Layer) :
    Reordered (Document.fillAll layers d) (Document.fillAll layers d') := by
  induction layers generalizing d d' with
  | nil => exact h
  | cons layer outer ih => exact ih (h.inside layer)

section

variable {es es' front back : List (Option String × Document)} {d d' : Document}

/-- Equal but for the order of the entries of one object. -/
abbrev Same (d d' : Document) : Prop := Relation.ReflGen Reordered d d'

theorem valueOf?_perm (hperm : es.Perm es') (hdistinct : (es.filterMap Prod.fst).Nodup)
    (f : String) : valueOf? es f = valueOf? es' f := by
  induction hperm with
  | nil => rfl
  | cons e hperm ih =>
    have hrest := ((List.sublist_cons_self e _).filterMap Prod.fst).nodup hdistinct
    rw [valueOf?_cons e.1 e.2, valueOf?_cons e.1 e.2, ih hrest]
  | swap e e' es =>
    rw [valueOf?_cons e'.1 e'.2, valueOf?_cons e.1 e.2, valueOf?_cons e.1 e.2,
      valueOf?_cons e'.1 e'.2]
    by_cases he : e.1 = some f
    · have he' : e'.1 ≠ some f := by
        intro he'
        simp [he, he'] at hdistinct
      rw [if_pos he, if_neg he', if_pos he]
    · rw [if_neg he, if_neg he]
  | trans hperm _ ih ih' =>
    exact (ih hdistinct).trans (ih' ((hperm.filterMap Prod.fst).nodup_iff.mp hdistinct))

theorem same_refl (o : Option Document) : Option.Rel Same o o := by
  cases o with
  | none => exact .none
  | some d => exact .some .refl

theorem valueOf?_same (h : Reordered d d') (front back : List (Option String × Document))
    (key : Option String) (f : String) :
    Option.Rel Same (valueOf? (front ++ (key, d) :: back) f)
      (valueOf? (front ++ (key, d') :: back) f) := by
  induction front with
  | nil =>
    rw [List.nil_append, List.nil_append, valueOf?_cons, valueOf?_cons]
    split
    · exact .some (.single h)
    · exact same_refl _
  | cons e front ih =>
    rw [List.cons_append, List.cons_append, valueOf?_cons e.1 e.2, valueOf?_cons e.1 e.2]
    split
    · exact same_refl _
    · exact ih

theorem lookup_zip_same (h : Reordered d d') (fields : List String) (front back : List Document)
    (f : String) :
    Option.Rel Same ((fields.zip (front ++ d :: back)).lookup f)
      ((fields.zip (front ++ d' :: back)).lookup f) := by
  induction front generalizing fields with
  | nil =>
    cases fields with
    | nil => exact .none
    | cons field fields =>
      simp only [List.nil_append, List.zip_cons_cons, List.lookup_cons]
      split
      · exact .some (.single h)
      · exact same_refl _
  | cons x front ih =>
    cases fields with
    | nil => exact .none
    | cons field fields =>
      simp only [List.cons_append, List.zip_cons_cons, List.lookup_cons]
      split
      · exact same_refl _
      · exact ih fields

/-- The fields of a reordered record are the same but for the order of
entries. -/
theorem Reordered.record? (h : Reordered d d') (fields : List String) :
    Option.Rel (fun g g' => ∀ f, Option.Rel Same (g f) (g' f))
      (d.record? fields) (d'.record? fields) := by
  cases h with
  | @object es es' hdistinct hperm =>
    have hkeys := hperm.map Prod.fst
    have hiff : WellKeyed fields (es'.map Prod.fst) ↔ WellKeyed fields (es.map Prod.fst) := by
      simp only [WellKeyed, hkeys.mem_iff, hkeys.count_eq]
    rw [record?_object, record?_object, if_congr hiff rfl rfl]
    split
    · refine .some fun f => ?_
      rw [valueOf?_perm hperm hdistinct]
      exact same_refl _
    · exact .none
  | @inside d d' layer h =>
    cases layer with
    | item front back =>
      simp only [Layer.fill, Document.record?, List.length_append, List.length_cons]
      split
      · exact .some fun f => lookup_zip_same h fields front back f
      · exact .none
    | entry front key back =>
      simp only [Layer.fill, record?_object, List.map_append, List.map_cons]
      split
      · exact .some fun f => valueOf?_same h front back key f
      · exact .none

end

end Document

namespace Decode

open Document

/-- A reading that does not look at the order of entries. -/
def Oblivious (decode : Decoder α) : Prop := ∀ d d', Reordered d d' → decode d = decode d'

variable {decode : Decoder α}

theorem oblivious_text : Oblivious text := by
  rintro d d' (_ | ⟨_ | _, _⟩) <;> rfl

theorem oblivious_bool : Oblivious bool := by
  rintro d d' (_ | ⟨_ | _, _⟩) <;> rfl

theorem allItems_congr {d d' : Document} (h : decode d = decode d') (front back : List Document) :
    allItems decode (front ++ d :: back) = allItems decode (front ++ d' :: back) := by
  induction front with
  | nil => rw [List.nil_append, List.nil_append, allItems, allItems, h]
  | cons x front ih => rw [List.cons_append, List.cons_append, allItems, allItems, ih]

theorem Oblivious.list (h : Oblivious decode) : Oblivious (list decode) := by
  intro d d' hd
  cases hd with
  | object => rfl
  | inside layer hd =>
    cases layer with
    | item front back => exact allItems_congr (h _ _ hd) front back
    | entry => rfl

/-- The reading of one entry of a map. -/
def binding? (decode : Decoder α) (e : Option String × Document) : Option (String × α) :=
  e.1.bind fun key => (decode e.2).map fun a => (key, a)

theorem allEntries_cons (e : Option String × Document) (es : List (Option String × Document)) :
    allEntries decode (e :: es) =
      (binding? decode e).bind fun x => (allEntries decode es).map (x :: ·) := by
  obtain ⟨key, d⟩ := e
  cases key with
  | none => rfl
  | some key =>
    rw [binding?, Option.bind_some]
    cases hd : decode d with
    | none => simp [allEntries, hd]
    | some a => cases hes : allEntries decode es <;> simp [allEntries, hd, hes]

theorem allEntries_congr {d d' : Document} (h : decode d = decode d')
    (front back : List (Option String × Document)) (key : Option String) :
    allEntries decode (front ++ (key, d) :: back) =
      allEntries decode (front ++ (key, d') :: back) := by
  induction front with
  | nil => simp only [List.nil_append, allEntries_cons, binding?, h]
  | cons e front ih => simp only [List.cons_append, allEntries_cons, ih]

theorem map_fst_of_allEntries {es : List (Option String × Document)} {l : List (String × α)}
    (h : allEntries decode es = some l) : l.map Prod.fst = es.filterMap Prod.fst := by
  induction es generalizing l with
  | nil =>
    cases h
    rfl
  | cons e es ih =>
    rw [allEntries_cons] at h
    obtain ⟨x, hx, h⟩ := Option.bind_eq_some_iff.mp h
    obtain ⟨l, hl, rfl⟩ := Option.map_eq_some_iff.mp h
    obtain ⟨key, hkey, hx⟩ := Option.bind_eq_some_iff.mp hx
    obtain ⟨a, -, rfl⟩ := Option.map_eq_some_iff.mp hx
    rw [List.map_cons, ih hl, List.filterMap_cons, hkey]

/-- The entries of a map are read in whatever order they are spelled. -/
theorem allEntries_perm {es es' : List (Option String × Document)} (h : es.Perm es')
    {l : List (String × α)} (hl : allEntries decode es = some l) :
    ∃ l', allEntries decode es' = some l' ∧ l'.Perm l := by
  induction h generalizing l with
  | nil => exact ⟨l, hl, .rfl⟩
  | cons e _ ih =>
    rw [allEntries_cons] at hl ⊢
    obtain ⟨x, hx, hl⟩ := Option.bind_eq_some_iff.mp hl
    obtain ⟨l, hrest, rfl⟩ := Option.map_eq_some_iff.mp hl
    obtain ⟨l', hl', hperm⟩ := ih hrest
    exact ⟨x :: l', by rw [hx, Option.bind_some, hl', Option.map_some], hperm.cons x⟩
  | swap e e' es =>
    rw [allEntries_cons, allEntries_cons] at hl ⊢
    obtain ⟨x, hx, hmap⟩ := Option.bind_eq_some_iff.mp hl
    obtain ⟨tail, hbind, rfl⟩ := Option.map_eq_some_iff.mp hmap
    obtain ⟨x', hx', hmap'⟩ := Option.bind_eq_some_iff.mp hbind
    obtain ⟨l, hrest, rfl⟩ := Option.map_eq_some_iff.mp hmap'
    exact ⟨x' :: x :: l, by simp [hx, hx', hrest], .swap _ _ _⟩
  | trans _ _ ih ih' =>
    obtain ⟨l', hl', hperm⟩ := ih hl
    obtain ⟨l'', hl'', hperm'⟩ := ih' hl'
    exact ⟨l'', hl'', hperm'.trans hperm⟩

theorem dict_perm {es es' : List (Option String × Document)} (hperm : es.Perm es')
    (hdistinct : (es.filterMap Prod.fst).Nodup) :
    dict decode (.object es) = dict decode (.object es') := by
  rw [dict, dict]
  cases hes : allEntries decode es with
  | some l =>
    obtain ⟨l', hl', hlist⟩ := allEntries_perm hperm hes
    have hnodup : (l.map Prod.fst).Nodup := by rwa [map_fst_of_allEntries hes]
    rw [hl', Option.map_some, Option.map_some, Keyed.ofList_eq_of_perm hnodup hlist]
  | none =>
    cases hes' : allEntries decode es' with
    | none => rfl
    | some l' =>
      obtain ⟨l, hl, -⟩ := allEntries_perm hperm.symm hes'
      rw [hes] at hl
      cases hl

theorem Oblivious.dict (h : Oblivious decode) : Oblivious (dict decode) := by
  intro d d' hd
  cases hd with
  | object hdistinct hperm => exact dict_perm hperm hdistinct
  | inside layer hd =>
    cases layer with
    | item => rfl
    | entry front key back =>
      exact congrArg (Option.map Keyed.ofList) (allEntries_congr (h _ _ hd) front back key)

theorem Oblivious.defaulted (h : Oblivious decode) (fallback : α) {o o' : Option Document}
    (ho : Option.Rel Same o o') : defaulted fallback decode o = defaulted fallback decode o' := by
  cases ho with
  | none => rfl
  | some hd =>
    cases hd with
    | refl => rfl
    | single hd => exact h _ _ hd

theorem Oblivious.nullable (h : Oblivious decode) : Oblivious (nullable decode) := by
  intro d d' hd
  have hread := congrArg (Option.map some) (h d d' hd)
  rcases hd with _ | ⟨_ | _, _⟩ <;> exact hread

theorem Oblivious.optional (h : Oblivious decode) {o o' : Option Document}
    (ho : Option.Rel Same o o') : optional decode o = optional decode o' := by
  cases ho with
  | none => rfl
  | some hd =>
    cases hd with
    | refl => rfl
    | single hd => exact h.nullable _ _ hd

/-! ## Records -/

/-- A reading that looks at a document through the fields of a record only, and
not at the order of entries in their values. -/
structure ReadsRecord (fields : List String) (decode : Decoder α) : Prop where
  congr : ∀ {d d'}, Option.Rel (fun g g' => ∀ f ∈ fields, Option.Rel Same (g f) (g' f))
    (d.record? fields) (d'.record? fields) → decode d = decode d'
  refuses : ∀ {d}, d.record? fields = none → decode d = none

/-- A record is read by what is done with its fields. -/
theorem readsRecord_bind {fields : List String} (read : (String → Option Document) → Option α)
    (h : ∀ g g', (∀ f ∈ fields, Option.Rel Same (g f) (g' f)) → read g = read g') :
    ReadsRecord fields fun d => d.record? fields >>= read where
  congr {d d'} hfields := by
    generalize d.record? fields = o at hfields ⊢
    generalize d'.record? fields = o' at hfields ⊢
    cases hfields with
    | none => rfl
    | some hg => exact h _ _ hg
  refuses hnone := by
    rw [hnone]
    rfl

theorem rel_imp {β : Type} {r s : β → β → Prop} (h : ∀ a b, r a b → s a b) {o o' : Option β}
    (ho : Option.Rel r o o') : Option.Rel s o o' := by
  cases ho with
  | none => exact .none
  | some hab => exact .some (h _ _ hab)

namespace ReadsRecord

variable {fields : List String}

theorem oblivious (h : ReadsRecord fields decode) : Oblivious decode := fun _ _ hd =>
  h.congr (rel_imp (fun _ _ hg f _ => hg f) (hd.record? fields))

/-- An entry whose name is no field is skipped, whatever its value. -/
theorem add (h : ReadsRecord fields decode) {name : String} (hname : name ∉ fields) (x : Document)
    (front back : List (Option String × Document)) :
    decode (.object (front ++ (some name, x) :: back)) = decode (.object (front ++ back)) := by
  refine (h.congr (rel_imp (fun g g' hg f hf => ?_) (record?_add hname x))).symm
  rw [hg f hf]
  exact same_refl _

end ReadsRecord

end Decode

end Roster
