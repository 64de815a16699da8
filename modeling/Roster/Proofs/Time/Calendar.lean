/-
Roster.Proofs.Time.Calendar — days and dates tell each other.

The date of a day exists (`Date.isValid_ofDayNumber`) and gives the day back
(`Date.dayNumber_ofDayNumber`), for every day before and after 1970.

Years are taken to start in March here.  An era of four centuries begins with
such a year, and `Date.EraPlace` says where a day of it lies: in which
century, in which leap period of four years, in which year.  The calendar
finds the year without this, by one division; `Date.yearOfEra_eq` says that
it finds the same one.  From then on a date is read off its year and its day
of the year (`Date.ofMarch`).
-/
import Roster.Time.Instant
import Mathlib.Tactic.Common

namespace Roster.Date

/-! ## Years that start in March -/

/-- The day `k` of the year `y` of the leap period `p` of the century `c` of an
era.  Only the years before a leap day have a day 365. -/
structure EraPlace (c p y k : Int) : Prop where
  century : 0 ≤ c ∧ c ≤ 3
  period : 0 ≤ p ∧ p ≤ 24
  year : 0 ≤ y ∧ y ≤ 3
  day : 0 ≤ k ∧ k ≤ 365
  leapDay : k = 365 → y = 3 ∧ (p = 24 → c = 3)

/-- Every day of an era has a place in it. -/
theorem exists_eraPlace {d : Int} (hlow : 0 ≤ d) (hhigh : d < 146097) :
    ∃ c p y k, EraPlace c p y k ∧ d = 36524 * c + 1461 * p + 365 * y + k := by
  -- The last century and the last year of a leap period are a day longer.
  obtain ⟨c, r, hc, hr, hlast, rfl⟩ : ∃ c r : Int, (0 ≤ c ∧ c ≤ 3) ∧ (0 ≤ r ∧ r ≤ 36524) ∧
      (r = 36524 → c = 3) ∧ d = 36524 * c + r :=
    ⟨d / 36524 - d / 146096, d - 36524 * (d / 36524 - d / 146096),
      by omega, by omega, by omega, by omega⟩
  obtain ⟨y, k, hy, hk, hleap, hyear⟩ : ∃ y k : Int, (0 ≤ y ∧ y ≤ 3) ∧ (0 ≤ k ∧ k ≤ 365) ∧
      (k = 365 → y = 3) ∧ r % 1461 = 365 * y + k :=
    ⟨r % 1461 / 365 - r % 1461 / 1460, r % 1461 - 365 * (r % 1461 / 365 - r % 1461 / 1460),
      by omega, by omega, by omega, by omega⟩
  exact ⟨c, r / 1461, y, k, ⟨hc, by omega, hy, hk, fun h => ⟨hleap h, by omega⟩⟩, by omega⟩

/-- The year that one division finds is the year of the place. -/
theorem yearOfEra_eq {c p y k d : Int} (h : EraPlace c p y k)
    (hd : d = 36524 * c + 1461 * p + 365 * y + k) :
    (d - d / 1460 + d / 36524 - d / 146096) / 365 = 100 * c + 4 * p + y := by
  obtain ⟨hc, hp, hy, hk, hleap⟩ := h
  have hrest : 1461 * p + 365 * y + k ≤ 36523 ∨ d = 146096 := by
    by_cases hlast : k = 365
    · have := hleap hlast
      omega
    · omega
  have hcentury : d / 36524 - d / 146096 = c := by
    rcases hrest with hrest | hlast
    · have : d / 36524 = c := by omega
      omega
    · omega
  have hperiod : d / 1460 = 25 * c + p + (24 * c + p + 365 * y + k) / 1460 := by omega
  omega

/-- The date of the day `k` of the year that starts in March of `y`. -/
def ofMarch (y k : Int) : Date :=
  let month := (5 * k + 2) / 153
  let day := k - (153 * month + 2) / 5 + 1
  if month < 10 then ⟨y, (month + 3).toNat, day.toNat⟩
  else ⟨y + 1, (month - 9).toNat, day.toNat⟩

/-- A date is read off a year that starts in March and a day of it. -/
theorem exists_ofMarch (n : Int) :
    ∃ y k : Int, (0 ≤ k ∧ k ≤ 365) ∧ (k = 365 → isLeapYear (y + 1) = true) ∧
      n + 719468 = 365 * y + y / 4 - y / 100 + y / 400 + k ∧ ofDayNumber n = ofMarch y k := by
  have hera : (n + 719468) % 146097 + 146097 * ((n + 719468) / 146097) = n + 719468 :=
    Int.emod_add_mul_ediv ..
  have hlow : 0 ≤ (n + 719468) % 146097 := by omega
  have hhigh : (n + 719468) % 146097 < 146097 := by omega
  simp only [ofDayNumber]
  generalize (n + 719468) % 146097 = d at hera hlow hhigh ⊢
  generalize (n + 719468) / 146097 = e at hera ⊢
  obtain ⟨c, p, y, k, hplace, hd⟩ := exists_eraPlace hlow hhigh
  rw [yearOfEra_eq hplace hd]
  obtain ⟨hc, hp, hy, hk, hleap⟩ := hplace
  have hfours : (100 * c + 4 * p + y) / 4 = 25 * c + p := by omega
  have hhundreds : (100 * c + 4 * p + y) / 100 = c := by omega
  have hday : d - (365 * (100 * c + 4 * p + y) + (100 * c + 4 * p + y) / 4 -
      (100 * c + 4 * p + y) / 100) = k := by omega
  rw [hday]
  refine ⟨100 * c + 4 * p + y + e * 400, k, hk, ?_, ?_, rfl⟩
  · intro h
    obtain ⟨h3, h24⟩ := hleap h
    simp only [isLeapYear, Bool.and_eq_true, Bool.or_eq_true, beq_iff_eq, bne_iff_ne]
    omega
  · have hfours' : (100 * c + 4 * p + y + e * 400) / 4 = 25 * c + p + e * 100 := by omega
    have hhundreds' : (100 * c + 4 * p + y + e * 400) / 100 = c + e * 4 := by omega
    have heras : (100 * c + 4 * p + y + e * 400) / 400 = e := by omega
    omega

/-! ## There and back -/

theorem dayNumber_ofMarch {y k : Int} (hk : 0 ≤ k ∧ k ≤ 365) :
    (ofMarch y k).dayNumber + 719468 = 365 * y + y / 4 - y / 100 + y / 400 + k := by
  have hmonth : 0 ≤ (5 * k + 2) / 153 ∧ (5 * k + 2) / 153 ≤ 11 := by omega
  have hday : 0 ≤ k - (153 * ((5 * k + 2) / 153) + 2) / 5 := by omega
  unfold ofMarch
  generalize (5 * k + 2) / 153 = month at hmonth hday ⊢
  dsimp only
  split
  next hearly =>
    have hafter : ¬(month + 3).toNat ≤ 2 := by omega
    simp only [dayNumber, if_neg hafter]
    omega
  next hlate =>
    have hbefore : (month - 9).toNat ≤ 2 := by omega
    simp only [dayNumber, if_pos hbefore]
    omega

theorem isValid_ofMarch {y k : Int} (hk : 0 ≤ k ∧ k ≤ 365)
    (hleap : k = 365 → isLeapYear (y + 1) = true) : (ofMarch y k).isValid = true := by
  have hmonth : 0 ≤ (5 * k + 2) / 153 ∧ (5 * k + 2) / 153 ≤ 11 := by omega
  unfold ofMarch
  generalize hm : (5 * k + 2) / 153 = month at hmonth ⊢
  dsimp only
  split
  next hearly =>
    have hnotFebruary : (month + 3).toNat ≠ 2 := by omega
    simp only [isValid, daysInMonth, if_neg hnotFebruary, Bool.and_eq_true, decide_eq_true_eq]
    refine ⟨⟨⟨by omega, by omega⟩, by omega⟩, ?_⟩
    split <;> omega
  next hlate =>
    simp only [isValid, daysInMonth, Bool.and_eq_true, decide_eq_true_eq]
    refine ⟨⟨⟨by omega, by omega⟩, by omega⟩, ?_⟩
    by_cases hfebruary : (month - 9).toNat = 2
    · rw [if_pos hfebruary]
      by_cases hlast : k = 365
      · rw [if_pos (hleap hlast)]
        omega
      · split <;> omega
    · rw [if_neg hfebruary]
      split <;> omega

/-- The date of a day gives the day back. -/
theorem dayNumber_ofDayNumber (n : Int) : (ofDayNumber n).dayNumber = n := by
  obtain ⟨y, k, hk, -, hn, hdate⟩ := exists_ofMarch n
  have hback := dayNumber_ofMarch (y := y) hk
  rw [hdate]
  omega

/-- The date of a day exists. -/
theorem isValid_ofDayNumber (n : Int) : (ofDayNumber n).isValid = true := by
  obtain ⟨y, k, hk, hleap, -, hdate⟩ := exists_ofMarch n
  rw [hdate]
  exact isValid_ofMarch hk hleap

/-- The leap day at the end of an era. -/
example : ofDayNumber 11016 = ⟨2000, 2, 29⟩ := by decide

/-! ## How large the parts of a date are -/

theorem month_le {d : Date} (h : d.isValid = true) : d.month ≤ 12 := by
  simp only [isValid, Bool.and_eq_true, decide_eq_true_eq] at h
  exact h.1.1.2

theorem day_le {d : Date} (h : d.isValid = true) : d.day ≤ 31 := by
  simp only [isValid, Bool.and_eq_true, decide_eq_true_eq] at h
  have hdays : daysInMonth d.year d.month ≤ 31 := by
    unfold daysInMonth
    grind
  exact Nat.le_trans h.2 hdays

end Roster.Date
