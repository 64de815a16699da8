/-
Roster.Proofs.Naming — which stems give a name, and what name they give.

A stem is cut after a number of bytes, and a character that lies across that
place stops whatever the name was wanted for.  `GeneratedName.CanBeCut` says
that a stem is short enough or that a character starts right there; then
there is a name, and it is as long as it may be and made of the stem and the
letters drawn (`GeneratedName.IsNameFrom`).  Stems of plain characters can
always be cut.

The blueprints of a new member's objects stop for no other reason
(`Scope.bootstrapConfig_aborted_iff` and its companions), so an attempt that
stops halfway was given a name that cannot be cut.
-/
import Roster.Proofs.Provisioning
import Roster.Sample

namespace Roster

/-! ## Cutting -/

namespace GeneratedName

/-- The most bytes of a stem that go into a name. -/
def stemBytes : Nat := maxBytes - suffixBytes

/-- A stem that is short enough to be kept whole, or has the start of a character
where it is to be cut. -/
def CanBeCut (stem : String) : Prop :=
  stem.utf8ByteSize ≤ stemBytes ∨ String.Pos.Raw.IsValid stem ⟨stemBytes⟩

theorem utf8ByteSize_cons (c : Char) (cs : List Char) :
    (String.ofList (c :: cs)).utf8ByteSize = c.utf8Size + (String.ofList cs).utf8ByteSize := by
  rw [String.ofList_cons, String.utf8ByteSize_append, String.utf8ByteSize_singleton]

/-- Plain characters take one byte each. -/
theorem utf8ByteSize_of_plain {cs : List Char} (h : ∀ c ∈ cs, c.utf8Size = 1) :
    (String.ofList cs).utf8ByteSize = cs.length := by
  induction cs with
  | nil => rfl
  | cons c cs ih =>
    obtain ⟨hc, hcs⟩ := List.forall_mem_cons.mp h
    rw [utf8ByteSize_cons, ih hcs, hc, List.length_cons, Nat.add_comm]

/-- A stem of plain characters can be cut. -/
theorem canBeCut_of_plain {stem : String} (h : ∀ c ∈ stem.toList, c.utf8Size = 1) :
    CanBeCut stem := by
  rcases Nat.le_total stem.utf8ByteSize stemBytes with hshort | hlong
  · exact .inl hshort
  · refine .inr (String.Pos.Raw.isValid_iff_exists_take_toList.mpr ⟨stemBytes, ?_⟩)
    have hlength : stem.utf8ByteSize = stem.toList.length := by
      rw [← utf8ByteSize_of_plain h, String.ofList_toList]
    rw [utf8ByteSize_of_plain fun c hc => h c (List.mem_of_mem_take hc), List.length_take,
      Nat.min_eq_left (hlength ▸ hlong)]

/-- What is kept of a text is all of it, or what takes exactly that many bytes. -/
theorem takeBytes?_eq_some_iff {n : Nat} {cs kept : List Char} :
    takeBytes? n cs = some kept ↔ ∃ rest, cs = kept ++ rest ∧
      (rest = [] ∧ (String.ofList kept).utf8ByteSize ≤ n ∨
        (String.ofList kept).utf8ByteSize = n) := by
  induction cs generalizing n kept with
  | nil =>
    rw [takeBytes?]
    constructor
    · rintro ⟨⟩
      exact ⟨[], rfl, .inl ⟨rfl, by simp⟩⟩
    · rintro ⟨rest, hrest, -⟩
      obtain ⟨rfl, -⟩ := List.append_eq_nil_iff.mp hrest.symm
      rfl
  | cons c cs ih =>
    have hpos := c.utf8Size_pos
    cases n with
    | zero =>
      rw [takeBytes?]
      constructor
      · rintro ⟨⟩
        exact ⟨c :: cs, rfl, .inr (by simp)⟩
      · rintro ⟨rest, hrest, hbytes⟩
        cases kept with
        | nil => rfl
        | cons d kept =>
          -- A character takes a byte at least, and none is left.
          obtain ⟨rfl, -⟩ := List.cons_eq_cons.mp hrest
          rw [utf8ByteSize_cons] at hbytes
          omega
    | succ n =>
      rw [takeBytes?]
      constructor
      · intro h
        split at h
        next hfits =>
          obtain ⟨kept', hkept', rfl⟩ := Option.map_eq_some_iff.mp h
          obtain ⟨rest, rfl, hbytes⟩ := ih.mp hkept'
          rw [utf8ByteSize_cons]
          exact ⟨rest, rfl, hbytes.imp (fun ⟨hrest, hle⟩ => ⟨hrest, by omega⟩) (by omega)⟩
        · cases h
      · rintro ⟨rest, hrest, hbytes⟩
        cases kept with
        | nil =>
          obtain ⟨rfl, -⟩ | hzero := hbytes
          · cases hrest
          · simp at hzero
        | cons d kept =>
          obtain ⟨rfl, rfl⟩ := List.cons_eq_cons.mp hrest
          rw [utf8ByteSize_cons] at hbytes
          have hfits : c.utf8Size ≤ n + 1 := by
            obtain ⟨-, hle⟩ | heq := hbytes <;> omega
          rw [if_pos hfits, ih.mpr ⟨rest, rfl,
            hbytes.imp (fun ⟨hrest, hle⟩ => ⟨hrest, by omega⟩) (by omega)⟩]
          rfl

/-! ## Names -/

/-- The letters of a suffix, as a text. -/
def suffixText (suffix : Suffix) : String := String.ofList suffix.chars

theorem mem_letters_of_mem_suffixText (suffix : Suffix) {c : Char}
    (h : c ∈ (suffixText suffix).toList) : c ∈ suffixLetters := by
  rw [suffixText, String.toList_ofList, Suffix.chars] at h
  obtain ⟨place, -, rfl⟩ := List.mem_map.mp h
  exact List.get_mem ..

theorem length_suffixText (suffix : Suffix) : (suffixText suffix).length = suffixBytes := by
  simp [suffixText, Suffix.chars, suffixBytes]

theorem utf8Size_of_mem_suffixLetters {c : Char} (h : c ∈ suffixLetters) : c.utf8Size = 1 := by
  have hall : suffixLetters.all (fun c => c.utf8Size == 1) = true := by decide
  exact beq_iff_eq.mp (List.all_eq_true.mp hall c h)

/-- Every letter of a suffix takes one byte. -/
theorem utf8ByteSize_suffixText (suffix : Suffix) :
    (suffixText suffix).utf8ByteSize = suffixBytes := by
  have hplain (c : Char) (hc : c ∈ suffix.chars) : c.utf8Size = 1 :=
    utf8Size_of_mem_suffixLetters
      (mem_letters_of_mem_suffixText suffix (by rwa [suffixText, String.toList_ofList]))
  rw [suffixText, utf8ByteSize_of_plain hplain]
  simp [Suffix.chars, suffixBytes]

theorem make?_eq_some_iff {stem name : String} {suffix : Suffix} :
    make? stem suffix = some name ↔ ∃ kept rest, stem = kept ++ rest ∧
      name = kept ++ suffixText suffix ∧
      (rest = "" ∧ kept.utf8ByteSize ≤ stemBytes ∨ kept.utf8ByteSize = stemBytes) := by
  rw [make?, Option.map_eq_some_iff]
  constructor
  · rintro ⟨kept, hkept, rfl⟩
    obtain ⟨rest, hstem, hbytes⟩ := takeBytes?_eq_some_iff.mp hkept
    refine ⟨String.ofList kept, String.ofList rest, ?_, String.ofList_append,
      hbytes.imp_left fun ⟨hrest, hle⟩ => ⟨by rw [hrest, String.ofList_nil], hle⟩⟩
    rw [← String.ofList_append, ← hstem, String.ofList_toList]
  · rintro ⟨kept, rest, rfl, rfl, hbytes⟩
    refine ⟨kept.toList, takeBytes?_eq_some_iff.mpr ⟨rest.toList, String.toList_append, ?_⟩, ?_⟩
    · rw [String.ofList_toList]
      exact hbytes.imp_left fun ⟨hrest, hle⟩ => ⟨by rw [hrest, String.toList_empty], hle⟩
    · rw [String.ofList_append, String.ofList_toList, suffixText]

/-- A stem gives a name when it can be cut. -/
theorem exists_make?_iff {stem : String} (suffix : Suffix) :
    (∃ name, make? stem suffix = some name) ↔ CanBeCut stem := by
  constructor
  · rintro ⟨name, hname⟩
    obtain ⟨kept, rest, rfl, -, ⟨rfl, hle⟩ | hbytes⟩ := make?_eq_some_iff.mp hname
    · exact .inl (by rwa [String.append_empty])
    · refine .inr (String.Pos.Raw.isValid_iff_exists_append.mpr ⟨kept, rest, rfl, ?_⟩)
      rw [String.Pos.Raw.ext_iff, String.byteIdx_rawEndPos, hbytes]
  · rintro (hle | hplace)
    · exact ⟨_, make?_eq_some_iff.mpr ⟨stem, "", String.append_empty.symm, rfl, .inl ⟨rfl, hle⟩⟩⟩
    · obtain ⟨kept, rest, hstem, hend⟩ := String.Pos.Raw.isValid_iff_exists_append.mp hplace
      have hbytes : kept.utf8ByteSize = stemBytes := (String.Pos.Raw.ext_iff.mp hend).symm
      exact ⟨_, make?_eq_some_iff.mpr ⟨kept, rest, hstem, rfl, .inr hbytes⟩⟩

/-- The name is short enough, and is made of the front of the stem, all of it where
there is room, and five letters of the alphabet of suffixes. -/
structure IsNameFrom (stem name : String) : Prop where
  bytes : name.utf8ByteSize ≤ maxBytes
  parts : ∃ kept rest letters, stem = kept ++ rest ∧ name = kept ++ letters ∧
    letters.length = suffixBytes ∧ (∀ c ∈ letters.toList, c ∈ suffixLetters) ∧
    (stem.utf8ByteSize ≤ stemBytes → kept = stem)

theorem isNameFrom_of_make? {stem name : String} {suffix : Suffix}
    (h : make? stem suffix = some name) : IsNameFrom stem name := by
  obtain ⟨kept, rest, rfl, rfl, hbytes⟩ := make?_eq_some_iff.mp h
  constructor
  · have hkept : kept.utf8ByteSize ≤ stemBytes := by
      obtain ⟨-, hle⟩ | heq := hbytes <;> omega
    rw [String.utf8ByteSize_append, utf8ByteSize_suffixText]
    exact Nat.add_le_add_right hkept suffixBytes
  · refine ⟨kept, rest, suffixText suffix, rfl, rfl, length_suffixText suffix,
      fun c => mem_letters_of_mem_suffixText suffix, fun hshort => ?_⟩
    obtain ⟨rfl, -⟩ | heq := hbytes
    · rw [String.append_empty]
    · rw [String.utf8ByteSize_append, heq] at hshort
      have hrest : rest = "" := String.utf8ByteSize_eq_zero_iff.mp (by omega)
      rw [hrest, String.append_empty]

end GeneratedName

open GeneratedName

/-! ## Blueprints -/

namespace Scope

variable {s : Scope} {suffix : Suffix}

theorem freshName_aborted_iff (suffix : Suffix) {stem : String} :
    freshName stem suffix = .error .aborted ↔ ¬ CanBeCut (stem ++ "-") := by
  rw [← exists_make?_iff suffix, freshName]
  cases make? (stem ++ "-") suffix <;> simp

/-- What needs a name and an owner stops at the name: an owner that is missing is
a failure. -/
theorem named_aborted_iff {α : Type} {stem : String} {controller : Bool}
    {build : String → OwnerReference → α} :
    (do
      let name ← freshName stem suffix
      let owner ← s.owner controller
      return build name owner : Except Halt α) = .error .aborted ↔ ¬ CanBeCut (stem ++ "-") := by
  rw [← freshName_aborted_iff suffix]
  cases freshName stem suffix with
  | error halt => simp [bind, Except.bind]
  | ok name =>
    cases howner : s.owner controller with
    | error halt =>
      obtain ⟨_, rfl⟩ := owner_eq_error howner
      simp [bind, Except.bind]
    | ok r => simp [bind, Except.bind, pure, Except.pure]

/-- The blueprint of a clone stops at the name of the template. -/
theorem infrastructureClone_aborted_iff {templateRef : Reference} {template : Unstructured} :
    s.infrastructureClone suffix templateRef template = .error .aborted ↔
      IsTemplate templateRef template ∧ ¬ CanBeCut (templateRef.name ++ "-") := by
  by_cases htemplate : IsTemplate templateRef template
  · have ⟨⟨inner, hinner⟩, kind, hkind⟩ := htemplate
    simp only [infrastructureClone, hinner, clonedKind?_eq_some_iff.mpr hkind]
    exact named_aborted_iff.trans (and_iff_right htemplate).symm
  · refine iff_of_false (fun h => ?_) fun h => htemplate h.1
    obtain ⟨-, _, _, hfailed⟩ | ⟨h, -⟩ := infrastructureClone_eq_error h
    · cases hfailed
    · exact htemplate h

/-- Settings stop at the name of the control plane. -/
theorem bootstrapConfig_aborted_iff {agentConfig : AgentConfig} :
    s.bootstrapConfig suffix agentConfig = .error .aborted ↔ ¬ CanBeCut (s.name ++ "-") :=
  named_aborted_iff

/-- A machine stops at the name of the control plane. -/
theorem newMachine_aborted_iff {infrastructure bootstrap : Reference}
    {failureDomain : Option String} :
    s.newMachine suffix infrastructure bootstrap failureDomain = .error .aborted ↔
      ¬ CanBeCut (s.name ++ "-") :=
  named_aborted_iff

/-! ## Attempts -/

/-- An attempt that stops was given a name that cannot be cut. -/
theorem ProvisionFails.not_canBeCut {draws : Draws} {agentConfig : AgentConfig}
    {failureDomain : Option String} {before after : Memory} {made : List Item}
    (h : s.ProvisionFails draws agentConfig failureDomain before made .aborted after) :
    ¬ CanBeCut (s.templateRef.name ++ "-") ∨ ¬ CanBeCut (s.name ++ "-") := by
  generalize hended : Halt.aborted = halt at h
  cases h with
  | @clone halt hfails =>
    cases halt with
    | failed e => cases hended
    | aborted =>
      cases hfails with
      | noBlueprint _ hclone => exact .inl (infrastructureClone_aborted_iff.mp hclone).2
  | settingsUnnamed _ hsettings => exact .inr (bootstrapConfig_aborted_iff.mp hsettings)
  | machineUnnamed _ _ hmachine => exact .inr (newMachine_aborted_iff.mp hmachine)
  | settings => cases hended
  | machine => cases hended

theorem not_canBeCut_of_provision {draws : Draws} {agentConfig : AgentConfig}
    {failureDomain : Option String} {j : Journal Memory}
    (h : (s.provision Memory.store draws agentConfig failureDomain j).1 = .error .aborted) :
    ¬ CanBeCut (s.templateRef.name ++ "-") ∨ ¬ CanBeCut (s.name ++ "-") := by
  have hends : (s.provision Memory.store draws agentConfig failureDomain).Ensures j _ _ :=
    provision_ensures
  obtain ⟨⟨made, hfails⟩, -⟩ := (Pass.ensures_iff.mp hends).2 .aborted h
  exact hfails.not_canBeCut

end Scope

/-- Whatever letters are drawn, there is a name made from a stem, as long as it may
be, exactly when the stem can be cut; one of plain characters always can.  The
blueprints of a new member's objects stop for want of a name exactly when the name
of the template or of the control plane cannot be cut, and no attempt stops
otherwise. -/
theorem names_are_made_where_stems_can_be_cut (suffix : Suffix) :
    (∀ stem, (∃ name, GeneratedName.make? stem suffix = some name ∧ IsNameFrom stem name) ↔
      CanBeCut stem) ∧
    (∀ stem, (∀ c ∈ stem.toList, c.utf8Size = 1) → CanBeCut stem) ∧
    (∀ (s : Scope) (templateRef : Reference) (template : Unstructured),
      s.infrastructureClone suffix templateRef template = .error .aborted ↔
        Scope.IsTemplate templateRef template ∧ ¬ CanBeCut (templateRef.name ++ "-")) ∧
    (∀ (s : Scope) (agentConfig : AgentConfig),
      s.bootstrapConfig suffix agentConfig = .error .aborted ↔ ¬ CanBeCut (s.name ++ "-")) ∧
    (∀ (s : Scope) (infrastructure bootstrap : Reference) (failureDomain : Option String),
      s.newMachine suffix infrastructure bootstrap failureDomain = .error .aborted ↔
        ¬ CanBeCut (s.name ++ "-")) ∧
    (∀ (s : Scope) (draws : Draws) (agentConfig : AgentConfig) (failureDomain : Option String)
      (j : Journal Memory),
      (s.provision Memory.store draws agentConfig failureDomain j).1 = .error .aborted →
        ¬ CanBeCut (s.templateRef.name ++ "-") ∨ ¬ CanBeCut (s.name ++ "-")) := by
  refine ⟨fun stem => ⟨?_, ?_⟩, fun _ => canBeCut_of_plain,
    fun _ _ _ => Scope.infrastructureClone_aborted_iff,
    fun _ _ => Scope.bootstrapConfig_aborted_iff, fun _ _ _ _ => Scope.newMachine_aborted_iff,
    fun _ _ _ _ _ => Scope.not_canBeCut_of_provision⟩
  · rintro ⟨name, hname, -⟩
    exact (exists_make?_iff suffix).mp ⟨name, hname⟩
  · intro hcut
    obtain ⟨name, hname⟩ := (exists_make?_iff suffix).mpr hcut
    exact ⟨name, hname, isNameFrom_of_make? hname⟩

/-- A name with an accent across the place where it would be cut. -/
def Sample.accentedName : String := String.ofList (List.replicate 57 'x') ++ "é"

/-- An attempt to create the first member of a control plane of that name. -/
def Sample.accentedAttempt : Except Halt Machine × Journal Memory :=
  (Scope.ofMachines (controlPlane accentedName 1) (cluster clusterName ["az-1"]) []).provision
    Memory.store ⟨.first, .first, .first⟩ .empty none ⟨memory ["az-1"], []⟩

/-- There is no name for the settings of its node: the attempt stops, and the clone
that was made before is left behind. -/
theorem accented_attempt_leaves_clone :
    GeneratedName.make? (Sample.accentedName ++ "-") .first = none ∧
    Sample.accentedAttempt.1 = .error .aborted ∧
    Sample.accentedAttempt.2.store.created.length = 1 ∧
    Sample.accentedAttempt.2.store.deleted = [] := by
  have hname : GeneratedName.make? (Sample.accentedName ++ "-") .first = none := by
    decide +kernel
  have hended : (Sample.accentedAttempt.1.toOption.isNone &&
      !Pass.hasFailed Sample.accentedAttempt.1) = true := by decide +kernel
  refine ⟨hname, ?_, by decide +kernel, by decide +kernel⟩
  generalize Sample.accentedAttempt.1 = ended at hended ⊢
  rcases ended with (e | _) | m
  · cases hended
  · rfl
  · cases hended

end Roster
