/-
Roster.Proofs.Releases — the version that a release carries is read off
its spelling, and off nothing else.

`Release.Carries` is the grammar of releases on its own: three counts behind
a v, a plus, a distribution, an r and a number.  A distribution may hold
the letter r and digits, so a text can often be divided into distribution
and number in several ways; the version is in front of the only plus and
is the same for all of them.  `Release.version?_eq_some_iff` says that
the reader finds a version exactly where the grammar has one: it cuts at
the first plus, at points and at the last r, and no run on the cut-off
side of a mark can hold that mark.
-/
import Roster.Proofs.Splitting
import Roster.Release

namespace Roster.Release

/-! ## The grammar -/

/-- One character or more, all of one class. -/
def IsRun (p : Char → Bool) (s : String) : Prop := s ≠ "" ∧ ∀ c ∈ s.toList, p c = true

/-- Three counts with points between them behind a v; the digits may be of any
script. -/
def SpellsVersion (version : String) : Prop := ∃ major minor patch,
  IsRun Text.isDigit major ∧ IsRun Text.isDigit minor ∧ IsRun Text.isDigit patch ∧
    version = "v" ++ major ++ "." ++ minor ++ "." ++ patch

/-- A release is a version, a plus, a distribution of ASCII letters and digits,
an r and a number. -/
def Carries (release version : String) : Prop := SpellsVersion version ∧ ∃ distribution number,
  IsRun Char.isAlphanum distribution ∧ IsRun Text.isDigit number ∧
    release = version ++ "+" ++ distribution ++ "r" ++ number

/-! ## Runs -/

theorem isAlphanumeric_eq (c : Char) : Text.isAlphanumeric c = c.isAlphanum := by
  have hlower : c.isLower = (decide ('a' ≤ c) && decide (c ≤ 'z')) := rfl
  have hupper : c.isUpper = (decide ('A' ≤ c) && decide (c ≤ 'Z')) := Bool.decide_and _ _
  have hdigit : c.isDigit = (decide ('0' ≤ c) && decide (c ≤ '9')) := rfl
  have hclass : c.isAlphanum = (c.isUpper || c.isLower || c.isDigit) := rfl
  rw [hclass, Bool.or_comm c.isUpper, hlower, hupper, hdigit, Text.isAlphanumeric]

theorem isRun_iff {p : Char → Bool} {s : String} :
    IsRun p s ↔ (!s.toList.isEmpty && s.toList.all p) = true := by
  rw [IsRun, Bool.and_eq_true, List.all_eq_true, Bool.not_eq_true', List.isEmpty_eq_false_iff,
    ne_eq, ne_eq, String.toList_eq_nil_iff]

theorem isCount_iff {s : String} : isCount s.toList = true ↔ IsRun Text.isDigit s :=
  isRun_iff.symm

theorem isDistribution_iff {s : String} :
    isDistribution s.toList = true ↔ IsRun Char.isAlphanum s := by
  have hclass : Text.isAlphanumeric = Char.isAlphanum := funext isAlphanumeric_eq
  rw [isDistribution, hclass, isRun_iff]

/-- A run of digits holds nothing else. -/
theorem IsRun.not_mem {p : Char → Bool} {s : String} (h : IsRun p s) {c : Char}
    (hc : p c = false) : c ∉ s.toList := by
  intro hmem
  rw [h.2 c hmem] at hc
  cases hc

/-! ## The reader -/

theorem isVersion_iff {version : String} :
    isVersion version.toList = true ↔ SpellsVersion version := by
  have hpoint : Text.isDigit '.' = false := by decide
  constructor
  · intro h
    unfold isVersion at h
    split at h
    next counts hv =>
      unfold isThreeCounts at h
      split at h
      next major rest hfirst =>
        split at h
        next minor patch hsecond =>
          obtain ⟨rfl, -⟩ := Text.splitFirst?_eq_some_iff.mp hfirst
          obtain ⟨rfl, -⟩ := Text.splitFirst?_eq_some_iff.mp hsecond
          rw [Bool.and_eq_true, Bool.and_eq_true] at h
          refine ⟨.ofList major, .ofList minor, .ofList patch, isCount_iff.mp ?_,
            isCount_iff.mp ?_, isCount_iff.mp ?_, ?_⟩
          · simpa using h.1.1
          · simpa using h.1.2
          · simpa using h.2
          · simp [← String.toList_inj, hv]
        · cases h
      · cases h
    · cases h
  · rintro ⟨major, minor, patch, hmajor, hminor, hpatch, rfl⟩
    have hfirst := Text.splitFirst?_append (hmajor.not_mem hpoint)
      (minor.toList ++ '.' :: patch.toList)
    have hsecond := Text.splitFirst?_append (hminor.not_mem hpoint) patch.toList
    simp [isVersion, isThreeCounts, hfirst, hsecond, isCount_iff.mpr hmajor,
      isCount_iff.mpr hminor, isCount_iff.mpr hpatch]

theorem isBuild_iff {build : String} :
    isBuild build.toList = true ↔ ∃ distribution number, IsRun Char.isAlphanum distribution ∧
      IsRun Text.isDigit number ∧ build = distribution ++ "r" ++ number := by
  constructor
  · intro h
    unfold isBuild at h
    split at h
    next distribution number hlast =>
      obtain ⟨hcut, -⟩ := Text.splitLast?_eq_some_iff.mp hlast
      rw [Bool.and_eq_true] at h
      refine ⟨.ofList distribution, .ofList number, isDistribution_iff.mp ?_,
        isCount_iff.mp ?_, ?_⟩
      · simpa using h.1
      · simpa using h.2
      · simp [← String.toList_inj, hcut]
    · cases h
  · rintro ⟨distribution, number, hdistribution, hnumber, rfl⟩
    have hlast := Text.splitLast?_append (l := distribution.toList)
      (hnumber.not_mem (by decide : Text.isDigit 'r' = false))
    simp [isBuild, hlast, isDistribution_iff.mpr hdistribution, isCount_iff.mpr hnumber]

theorem SpellsVersion.plus_not_mem {version : String} (h : SpellsVersion version) :
    '+' ∉ version.toList := by
  have hplus : Text.isDigit '+' = false := by decide
  obtain ⟨major, minor, patch, hmajor, hminor, hpatch, rfl⟩ := h
  simp [hmajor.not_mem hplus, hminor.not_mem hplus, hpatch.not_mem hplus]

/-- The reader finds a version exactly where the grammar has one. -/
theorem version?_eq_some_iff {release version : String} :
    version? release = some version ↔ Carries release version := by
  constructor
  · intro h
    unfold version? at h
    split at h
    next front build hfirst =>
      split at h
      next hforms =>
        cases h
        obtain ⟨hcut, -⟩ := Text.splitFirst?_eq_some_iff.mp hfirst
        rw [Bool.and_eq_true, ← String.toList_ofList (l := front),
          ← String.toList_ofList (l := build), isVersion_iff, isBuild_iff] at hforms
        obtain ⟨hversion, distribution, number, hdistribution, hnumber, hbuild⟩ := hforms
        refine ⟨hversion, distribution, number, hdistribution, hnumber, ?_⟩
        rw [← String.toList_inj, String.toList_ofList] at hbuild
        simp [← String.toList_inj, hcut, hbuild]
      · cases h
    · cases h
  · rintro ⟨hversion, distribution, number, hdistribution, hnumber, rfl⟩
    have hfirst := Text.splitFirst?_append hversion.plus_not_mem
      (distribution ++ "r" ++ number).toList
    have hbuild : isBuild (distribution ++ "r" ++ number).toList = true :=
      isBuild_iff.mpr ⟨distribution, number, hdistribution, hnumber, rfl⟩
    have hchars : (version ++ "+" ++ distribution ++ "r" ++ number).toList =
        version.toList ++ '+' :: (distribution ++ "r" ++ number).toList := by simp
    simp only [version?, hchars, hfirst, isVersion_iff.mpr hversion, hbuild, Bool.and_self,
      if_true, String.ofList_toList]

/-- A text without a plus stands for itself. -/
theorem version_of_plus_not_mem {release : String} (h : '+' ∉ release.toList) :
    version release = release := by
  simp [version, version?, Text.splitFirst?_of_not_mem h]

theorem version_of_carries {release w : String} (h : Carries release w) :
    version release = w := by
  simp [version, version?_eq_some_iff.mpr h]

theorem version_of_not_carries {release : String} (h : ∀ w, ¬Carries release w) :
    version release = release := by
  cases hfound : version? release with
  | none => simp [version, hfound]
  | some w => exact absurd (version?_eq_some_iff.mp hfound) (h w)

/-- A release ends with a digit. -/
theorem Carries.exists_getLast? {release w : String} (h : Carries release w) :
    ∃ c, release.toList.getLast? = some c ∧ Text.isDigit c = true := by
  obtain ⟨-, distribution, number, -, ⟨hne, hdigits⟩, rfl⟩ := h
  have hne : number.toList ≠ [] := fun h => hne (String.toList_eq_nil_iff.mp h)
  refine ⟨number.toList.getLast hne, ?_, hdigits _ (List.getLast_mem hne)⟩
  rw [String.toList_append, List.getLast?_append, List.getLast?_eq_some_getLast hne, Option.some_or]

theorem exists_eq_version_append (text : String) : ∃ rest, text = version text ++ rest := by
  cases hfound : version? text with
  | none => exact ⟨"", by simp [version, hfound]⟩
  | some w =>
    obtain ⟨-, distribution, number, -, -, htext⟩ := version?_eq_some_iff.mp hfound
    refine ⟨"+" ++ distribution ++ "r" ++ number, ?_⟩
    rw [version, hfound, Option.getD_some, htext]
    simp only [String.append_assoc]

theorem version_version (text : String) : version (version text) = version text := by
  cases hfound : version? text with
  | none =>
    have hself : version text = text := by simp [version, hfound]
    rw [hself, hself]
  | some w =>
    have hcarries := version?_eq_some_iff.mp hfound
    rw [version_of_carries hcarries]
    exact version_of_plus_not_mem hcarries.1.plus_not_mem

/-! ## The version a release carries -/

/-- The version of a release is what the grammar says: a text that is spelled as
a release, in whatever way it is divided, has the version in front of its
plus, and every other text is left alone, also one that would be a release
without its last line feed.  The version is the beginning of the text, and it
is its own version. -/
theorem version_is_what_is_spelled :
    (∀ release w, Carries release w → version release = w) ∧
    (∀ release w w', Carries release w → Carries release w' → w = w') ∧
    (∀ text, (∀ w, ¬Carries text w) → version text = text) ∧
    (∀ text, version (text ++ "\n") = text ++ "\n") ∧
    (∀ text, ∃ rest, text = version text ++ rest) ∧
    ∀ text, version (version text) = version text := by
  refine ⟨fun _ _ => version_of_carries, ?_, fun _ => version_of_not_carries, ?_,
    exists_eq_version_append, version_version⟩
  · intro release w w' h h'
    exact (version_of_carries h).symm.trans (version_of_carries h')
  · intro text
    refine version_of_not_carries fun w h => ?_
    obtain ⟨c, hlast, hdigit⟩ := h.exists_getLast?
    obtain rfl : '\n' = c := by simpa using hlast
    exact absurd hdigit (by decide)

/-- A distribution with an r and digits in it, a minor count in Arabic digits
and a number in Thai ones make a release; without a number there is none. -/
theorem eastern_release_is_spelled :
    Carries "v1.٢٩.4+k3r9r๑" "v1.٢٩.4" ∧ version "v1.٢٩.4+k3r9r๑" = "v1.٢٩.4" ∧
      (∀ w, Carries "v1.٢٩.4+k3r9r๑" w → "v1.٢٩.4" = w) ∧
      (∀ w, ¬Carries "v1.٢٩.4+k3r9r" w) ∧
      version "v1.٢٩.4+k3r9r" = "v1.٢٩.4+k3r9r" := by
  obtain ⟨hcarried, hunique, hother, -⟩ := version_is_what_is_spelled
  have hrelease : Carries "v1.٢٩.4+k3r9r๑" "v1.٢٩.4" := by
    refine ⟨⟨"1", "٢٩", "4", ?_, ?_, ?_, rfl⟩, "k3r9", "๑", ?_, ?_, rfl⟩
    · exact isCount_iff.mp (by decide +kernel)
    · exact isCount_iff.mp (by decide +kernel)
    · exact isCount_iff.mp (by decide +kernel)
    · exact isDistribution_iff.mp (by decide +kernel)
    · exact isCount_iff.mp (by decide +kernel)
  have hnone : ∀ w, ¬Carries "v1.٢٩.4+k3r9r" w := by
    intro w h
    have hread : version? "v1.٢٩.4+k3r9r" = none := by decide +kernel
    rw [version?_eq_some_iff.mpr h] at hread
    cases hread
  exact ⟨hrelease, hcarried _ _ hrelease, fun w => hunique _ _ w hrelease, hnone, hother _ hnone⟩

end Roster.Release
