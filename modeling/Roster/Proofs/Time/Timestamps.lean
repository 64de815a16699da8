/-
Roster.Proofs.Time.Timestamps — a written instant is read back.

`Instant.read?_render` holds of ordinary instants: those outside leap seconds,
in a year of four digits.  The reader allows for much that is never written
(white space, short fields, offsets), so the proof only follows it along what
is written: every field is a number padded to its width, and a reader of that
width takes it and leaves the rest (`field?_padded`, `year?_padded`,
`fraction?_padded`).  `readChars?_render` puts the fields together, and the
calendar does the rest.
-/
import Roster.Proofs.Json.Lexing
import Roster.Proofs.Time.Calendar
import Roster.Time.Rfc3339
import Mathlib.Tactic.IntervalCases

namespace Roster

/-! ## Digits -/

theorem digit?_digitChar {d : Nat} (h : d < 10) : digit? d.digitChar = some d := by
  interval_cases d <;> rfl

theorem isBlank_digitChar {d : Nat} (h : d < 10) : Text.isBlank d.digitChar = false := by
  interval_cases d <;> rfl

/-- Digits are taken up to the first character that is none. -/
theorem takeDigits_append {ds : List Nat} {rest : List Char} (hds : ∀ d ∈ ds, d < 10)
    (hrest : EndsDigits rest) : takeDigits (ds.map Nat.digitChar ++ rest) = (ds, rest) := by
  induction ds with
  | nil => exact takeDigits_of_endsDigits hrest
  | cons d ds ih =>
    have hd : digit? d.digitChar = some d := digit?_digitChar (hds d List.mem_cons_self)
    have ih := ih fun e he => hds e (List.mem_cons_of_mem _ he)
    rw [List.map_cons, List.cons_append, takeDigits, hd, ih]

namespace Decimal

/-- The last digit comes off the end of a padded number. -/
theorem padded_succ {w : Nat} (hw : 0 < w) (n : Nat) :
    padded (w + 1) n = padded w (n / 10) ++ [(n % 10).digitChar] := by
  rw [padded, padded, digits, digits]
  by_cases h : n < 10
  · have hzeros : List.replicate (w - 1) '0' ++ ['0'] = List.replicate w '0' := by
      rw [← List.replicate_succ', Nat.sub_add_cancel hw]
    rw [Nat.toDigits_of_lt_base h, Nat.div_eq_of_lt h, Nat.mod_eq_of_lt h, Nat.toDigits_zero]
    simp [hzeros]
  · rw [Nat.toDigits_of_base_le (by decide) (Nat.le_of_not_lt h)]
    simp

/-- A number is padded to exactly as many digits as it is padded to, if these are
enough, and they have its value. -/
theorem exists_padded {w n : Nat} (hw : 0 < w) (hn : n < 10 ^ w) :
    ∃ d ds, padded w n = (d :: ds).map Nat.digitChar ∧ (d :: ds).length = w ∧
      (∀ e ∈ d :: ds, e < 10) ∧ Instant.valueOf (d :: ds) = n := by
  induction w, hw using Nat.le_induction generalizing n with
  | base =>
    have hn : n < 10 := by simpa using hn
    exact ⟨n, [], by simp [padded, digits, Nat.toDigits_of_lt_base hn], rfl, by simpa using hn,
      by simp [Instant.valueOf]⟩
  | succ w hw ih =>
    have hrest : n / 10 < 10 ^ w := by
      rw [Nat.pow_succ] at hn
      omega
    obtain ⟨d, ds, hspell, hlength, hdigits, hvalue⟩ := ih hrest
    refine ⟨d, ds ++ [n % 10], by simp [padded_succ hw, hspell], by simpa using hlength, ?_, ?_⟩
    · intro e he
      rcases List.mem_append.mp (List.cons_append ▸ he) with he | he
      · exact hdigits e he
      · rw [List.mem_singleton.mp he]
        omega
    · rw [Instant.valueOf] at hvalue ⊢
      rw [← List.cons_append, List.foldl_append, hvalue, List.foldl_cons, List.foldl_nil]
      omega

end Decimal

namespace Instant

/-! ## Fields -/

variable {w n : Nat} {rest : List Char}

theorem skipBlank_cons {c : Char} (h : Text.isBlank c = false) :
    skipBlank (c :: rest) = c :: rest := by
  simp [skipBlank, h]

theorem mark?_cons {c : Char} (h : Text.isBlank c = false) : mark? c (c :: rest) = some rest := by
  simp [mark?, skipBlank_cons h]

/-- A number of the width that a reader looks for is taken, whatever follows. -/
theorem field?_padded (hw : 0 < w) (hn : n < 10 ^ w) :
    field? w (Decimal.padded w n ++ rest) = some (n, rest) := by
  obtain ⟨d, ds, hspell, hlength, hdigits, hvalue⟩ := Decimal.exists_padded hw hn
  have hlength' : ((d :: ds).map Nat.digitChar).length = w := by rw [List.length_map, hlength]
  have hblank : skipBlank (Decimal.padded w n ++ rest) = Decimal.padded w n ++ rest := by
    rw [hspell]
    exact skipBlank_cons (isBlank_digitChar (hdigits d List.mem_cons_self))
  have htake : (takeDigits ((Decimal.padded w n ++ rest).take w)).1 = d :: ds := by
    rw [hspell, List.take_left' hlength', ← List.append_nil (List.map _ _),
      takeDigits_append hdigits (by simp [EndsDigits])]
  have hdrop : (Decimal.padded w n ++ rest).drop (d :: ds).length = rest := by
    rw [hspell, hlength, List.drop_left' hlength']
  simp only [field?, hblank, htake]
  rw [hdrop, hvalue]

/-- A year of four digits is taken; a digit is no sign. -/
theorem year?_padded (hn : n < 10 ^ 4) :
    year? (Decimal.padded 4 n ++ rest) = some ((n : Int), rest) := by
  have hfield : field? 4 (Decimal.padded 4 n ++ rest) = some (n, rest) :=
    field?_padded (by decide) hn
  obtain ⟨d, ds, hspell, -, hdigits, -⟩ := Decimal.exists_padded (w := 4) (by decide) hn
  have hd : digit? d.digitChar = some d := digit?_digitChar (hdigits d List.mem_cons_self)
  have hhead : Decimal.padded 4 n ++ rest = d.digitChar :: (ds.map Nat.digitChar ++ rest) := by
    rw [hspell]
    rfl
  rw [hhead] at hfield ⊢
  rw [year?, skipBlank_cons (isBlank_digitChar (hdigits d List.mem_cons_self))]
  split
  next heq =>
    rw [(List.cons.inj heq).1] at hd
    cases hd
  next heq =>
    rw [(List.cons.inj heq).1] at hd
    cases hd
  next =>
    rw [hfield]
    rfl

theorem fraction?_padded (hw : 0 < w) (hnine : w ≤ 9) (hn : n < 10 ^ w) (hrest : EndsDigits rest) :
    fraction? ('.' :: Decimal.padded w n ++ rest) = some (n * 10 ^ (9 - w), rest) := by
  obtain ⟨d, ds, hspell, hlength, hdigits, hvalue⟩ := Decimal.exists_padded hw hn
  have hall : (d :: ds).take 9 = d :: ds := List.take_of_length_le (by omega)
  rw [List.cons_append, fraction?, hspell, takeDigits_append hdigits hrest]
  dsimp only
  rw [hall, hvalue, hlength]
  rfl

/-- A fraction of a second is read back from as few digits as are exact. -/
theorem fraction?_renderFraction {nanos : Nat} (h : nanos < 1000000000) (hrest : EndsDigits rest)
    (hpoint : ∀ c ∈ rest.head?, c ≠ '.') :
    fraction? (renderFraction nanos ++ rest) = some (nanos, rest) := by
  unfold renderFraction
  split
  next hnone =>
    rw [hnone, List.nil_append, fraction?]
    rintro cs rfl
    exact hpoint '.' rfl rfl
  split
  next hmillis =>
    rw [fraction?_padded (by decide) (by decide) (by omega) hrest]
    congr 2
    omega
  split
  next hmicros =>
    rw [fraction?_padded (by decide) (by decide) (by omega) hrest]
    congr 2
    omega
  next =>
    rw [fraction?_padded (by decide) (by decide) (by omega) hrest]
    simp

/-! ## Whole instants -/

theorem bind_of_eq_some {α β : Type} {o : Option α} {a : α} (h : o = some a) (k : α → Option β) :
    o.bind k = k a := by
  rw [h, Option.bind_some]

/-- The reader finds the fields that were written, and no offset. -/
theorem readChars?_fields {year month day hour minute second nanos : Nat} (hyear : year < 10 ^ 4)
    (hmonth : month < 10 ^ 2) (hday : day < 10 ^ 2) (hhour : hour < 10 ^ 2)
    (hminute : minute < 10 ^ 2) (hsecond : second < 10 ^ 2) (hnanos : nanos < 1000000000) :
    readChars? (Decimal.padded 4 year ++ '-' :: (Decimal.padded 2 month ++ '-' ::
        (Decimal.padded 2 day ++ 'T' :: (Decimal.padded 2 hour ++ ':' ::
          (Decimal.padded 2 minute ++ ':' :: (Decimal.padded 2 second ++
            (renderFraction nanos ++ ['Z']))))))) =
      assemble? ⟨year, month, day⟩ hour minute second nanos 0 := by
  have hdash : Text.isBlank '-' = false := rfl
  have hcolon : Text.isBlank ':' = false := rfl
  have hfraction : fraction? (renderFraction nanos ++ ['Z']) = some (nanos, ['Z']) :=
    fraction?_renderFraction hnanos (by simp [EndsDigits, digit?]) (by simp)
  have hzulu : offset? (skipBlank ['Z']) = some (0, []) := rfl
  have htwo : 0 < 2 := by decide
  -- Each part is taken before the rest of the reader is looked at.
  simp only [readChars?, ↓Option.bind_eq_bind, ↓Option.bind_some, ↓reduceIte, true_or,
    ↓bind_of_eq_some (year?_padded hyear), ↓bind_of_eq_some (mark?_cons hdash),
    ↓bind_of_eq_some (field?_padded htwo hmonth), ↓bind_of_eq_some (field?_padded htwo hday),
    ↓bind_of_eq_some (field?_padded htwo hhour), ↓bind_of_eq_some (mark?_cons hcolon),
    ↓bind_of_eq_some (field?_padded htwo hminute), ↓bind_of_eq_some (field?_padded htwo hsecond),
    ↓bind_of_eq_some hfraction, ↓bind_of_eq_some hzulu]
  rfl

/-- Outside leap seconds, in a year of four digits. -/
structure IsOrdinary (t : Instant) : Prop where
  nanos_lt : t.nanos < 1000000000
  year_nonneg : 0 ≤ t.date.year
  year_le : t.date.year ≤ 9999

theorem secondOfDay_lt (t : Instant) : t.secondOfDay < 86400 := by
  unfold secondOfDay
  omega

theorem renderWhole_append {t : Instant} (h : t.IsOrdinary) (rest : List Char) :
    t.renderWhole ++ rest =
      Decimal.padded 4 t.date.year.toNat ++ '-' :: (Decimal.padded 2 t.date.month ++ '-' ::
        (Decimal.padded 2 t.date.day ++ 'T' :: (Decimal.padded 2 (t.secondOfDay / 3600) ++ ':' ::
          (Decimal.padded 2 (t.secondOfDay / 60 % 60) ++ ':' ::
            (Decimal.padded 2 (t.secondOfDay % 60) ++ rest))))) := by
  have hyear : 0 ≤ t.date.year ∧ t.date.year ≤ 9999 := ⟨h.year_nonneg, h.year_le⟩
  have hleap : ¬1000000000 ≤ t.nanos := Nat.not_le.mpr h.nanos_lt
  simp only [renderWhole, renderYear, if_pos hyear, if_neg hleap, Nat.add_zero, List.append_assoc,
    List.cons_append]

theorem readChars?_render {t : Instant} (h : t.IsOrdinary) :
    readChars? (t.renderWhole ++ renderFraction (t.nanos % 1000000000) ++ ['Z']) =
      assemble? t.date (t.secondOfDay / 3600) (t.secondOfDay / 60 % 60) (t.secondOfDay % 60)
        t.nanos 0 := by
  have hvalid : t.date.isValid = true := Date.isValid_ofDayNumber _
  have hmonth : t.date.month < 10 ^ 2 := Nat.lt_of_le_of_lt (Date.month_le hvalid) (by decide)
  have hday : t.date.day < 10 ^ 2 := Nat.lt_of_le_of_lt (Date.day_le hvalid) (by decide)
  have hyear : t.date.year.toNat < 10 ^ 4 := by
    have := h.year_le
    omega
  have hdate : (⟨(t.date.year.toNat : Int), t.date.month, t.date.day⟩ : Date) = t.date := by
    rw [Int.toNat_of_nonneg h.year_nonneg]
  have hsecond := t.secondOfDay_lt
  rw [List.append_assoc, renderWhole_append h, Nat.mod_eq_of_lt h.nanos_lt,
    readChars?_fields hyear hmonth hday (by omega) (by omega) (by omega) h.nanos_lt, hdate]

/-- The fields of an ordinary instant put it together again. -/
theorem assemble?_date {t : Instant} (h : t.IsOrdinary) :
    assemble? t.date (t.secondOfDay / 3600) (t.secondOfDay / 60 % 60) (t.secondOfDay % 60)
      t.nanos 0 = some t := by
  have hsecond := t.secondOfDay_lt
  have hlow : yearRange.1 ≤ t.date.year := Int.le_trans (by decide) h.year_nonneg
  have hhigh : t.date.year ≤ yearRange.2 := Int.le_trans h.year_le (by decide)
  have hguard : t.date.isValid = true ∧ yearRange.1 ≤ t.date.year ∧ t.date.year ≤ yearRange.2 ∧
      t.secondOfDay / 3600 ≤ 23 ∧ t.secondOfDay / 60 % 60 ≤ 59 ∧ t.secondOfDay % 60 ≤ 60 ∧
      (-86400 : Int) < 0 ∧ (0 : Int) < 86400 :=
    ⟨Date.isValid_ofDayNumber _, hlow, hhigh, by omega, by omega, by omega, by omega, by omega⟩
  have hleap : t.secondOfDay % 60 ≠ 60 := by omega
  have hnumber : t.date.dayNumber = t.seconds / 86400 := Date.dayNumber_ofDayNumber _
  have hseconds : t.date.dayNumber * 86400 + ((t.secondOfDay / 3600 * 3600 +
      t.secondOfDay / 60 % 60 * 60 + min (t.secondOfDay % 60) 59 : Nat) : Int) - 0 = t.seconds := by
    have hday : (t.secondOfDay : Int) = t.seconds % 86400 := by
      unfold secondOfDay
      omega
    rw [hnumber]
    omega
  have hrange : t.inRange = true := by
    simp only [inRange, Bool.and_eq_true, decide_eq_true_eq]
    exact ⟨hlow, hhigh⟩
  simp only [assemble?, if_pos hguard, if_neg hleap, Nat.add_zero, hseconds]
  rw [if_pos hrange]

/-- A written instant is read back. -/
theorem read?_render {t : Instant} (h : t.IsOrdinary) : read? t.render = some t := by
  rw [read?, render, String.toList_ofList, readChars?_render h, assemble?_date h]

end Instant

end Roster
