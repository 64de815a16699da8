/-
Roster.Proofs.Json.Joining — the tokens of texts that are put one behind
the other.

A text of whole tokens keeps them in front of any other text, as long as
that does not go on with a number it ends in (`Token.Breaks`): numbers are
the only tokens without an end of their own.  `Token.all?_append` says so.
Every reader is followed on its own first (`IsLocal`): what it leaves is an
end of its text, and where it stops does not depend on what stands further
behind.

Blanks between tokens change nothing (`Token.all?_insert_blanks`).
-/
import Roster.Proofs.Json.Lexing

namespace Roster

variable {l b rest : List Char}

/-! ## Readers and what follows -/

/-- Whether a character behind a number could belong to it. -/
def goesOnNumber (c : Char) : Bool := (digit? c).isSome || c == '.' || c == 'e' || c == 'E'

/-- A text that does not go on with a number in front of it. -/
def Token.Breaks (b : List Char) : Prop := ∀ c ∈ b.head?, goesOnNumber c = false

theorem Token.Breaks.endsDigits (h : Token.Breaks b) : EndsDigits b := by
  intro c hc
  have hgoes := h c hc
  simp only [goesOnNumber, Bool.or_eq_false_iff] at hgoes
  simpa using hgoes.1.1.1

/-- A reader that leaves an end of its text, and stops in the same place whatever
stands further behind; at the end of a text, something has to break off the
number. -/
def IsLocal {α : Type} (read : List Char → Option (α × List Char)) : Prop :=
  ∀ {l rest a}, read l = some (a, rest) →
    rest <:+ l ∧ ∀ b, (rest = [] → Token.Breaks b) → read (l ++ b) = some (a, rest ++ b)

open Token

/-! ## Numerals -/

theorem takeDigits_suffix (l : List Char) : (takeDigits l).2 <:+ l := by
  induction l with
  | nil => exact List.suffix_rfl
  | cons c l ih =>
    rw [takeDigits]
    cases digit? c with
    | none => exact List.suffix_rfl
    | some d => exact ih.trans (List.suffix_cons c l)

theorem takeDigits_append_right (hb : (takeDigits l).2 = [] → EndsDigits b) :
    takeDigits (l ++ b) = ((takeDigits l).1, (takeDigits l).2 ++ b) := by
  induction l with
  | nil => exact takeDigits_of_endsDigits (hb rfl)
  | cons c l ih =>
    rw [takeDigits] at hb
    rw [List.cons_append, takeDigits, takeDigits]
    cases hdigit : digit? c with
    | none => rfl
    | some d =>
      rw [hdigit] at hb
      simp [ih hb]

namespace Numeral

theorem takeFraction?_of_ne_point {c : Char} {cs : List Char} (h : c ≠ '.') :
    takeFraction? (c :: cs) = some (none, c :: cs) := by
  rw [takeFraction?]
  rintro r hr
  exact h (List.cons.inj hr).1

theorem isLocal_takeFraction? : IsLocal takeFraction? := by
  intro l rest fraction h
  cases l with
  | nil =>
    cases h
    refine ⟨List.suffix_rfl, fun b hb => ?_⟩
    cases b with
    | nil => rfl
    | cons c cs => exact takeFraction?_of_ne_point (by rintro rfl; cases hb rfl '.' rfl)
  | cons c cs =>
    by_cases hc : c = '.'
    · subst hc
      rw [takeFraction?] at h
      split at h
      · cases h
      next hdigits =>
        cases h
        refine ⟨(takeDigits_suffix cs).trans (List.suffix_cons _ cs), fun b hb => ?_⟩
        rw [List.cons_append, takeFraction?,
          takeDigits_append_right fun hrest => (hb hrest).endsDigits]
        exact if_neg hdigits
    · rw [takeFraction?_of_ne_point hc] at h
      cases h
      exact ⟨List.suffix_rfl, fun b _ => takeFraction?_of_ne_point hc⟩

/-- The sign in front of a power of ten, and what follows it. -/
def takeSign : List Char → Bool × List Char
  | [] => (false, [])
  | c :: cs =>
    if c = '+' then (false, cs) else if c = '-' then (true, cs) else (false, c :: cs)

theorem takeSign_suffix (l : List Char) : (takeSign l).2 <:+ l := by
  fun_cases takeSign l with
  | case1 => exact List.suffix_rfl
  | case2 cs => exact List.suffix_cons _ cs
  | case3 cs => exact List.suffix_cons _ cs
  | case4 => exact List.suffix_rfl

theorem takeSign_append (h : l ≠ []) (b : List Char) :
    takeSign (l ++ b) = ((takeSign l).1, (takeSign l).2 ++ b) := by
  obtain ⟨c, cs, rfl⟩ := List.exists_cons_of_ne_nil h
  simp only [List.cons_append, takeSign]
  split
  · rfl
  split
  · rfl
  · rfl

theorem takeExponent?_cons (c : Char) (cs : List Char) :
    takeExponent? (c :: cs) =
      if c = 'e' ∨ c = 'E' then
        if (takeDigits (takeSign cs).2).1.isEmpty then none
        else some (some ((takeSign cs).1, (takeDigits (takeSign cs).2).1),
          (takeDigits (takeSign cs).2).2)
      else some (none, c :: cs) := by
  cases cs with
  | nil => rfl
  | cons sign cs =>
    by_cases hplus : sign = '+'
    · subst hplus
      rfl
    by_cases hminus : sign = '-'
    · subst hminus
      rfl
    rw [takeExponent?, takeSign, if_neg hplus, if_neg hminus]
    · exact fun _ h => hplus (List.cons.inj h).1
    · exact fun _ h => hminus (List.cons.inj h).1

theorem isLocal_takeExponent? : IsLocal takeExponent? := by
  intro l rest exponent h
  cases l with
  | nil =>
    cases h
    refine ⟨List.suffix_rfl, fun b hb => ?_⟩
    cases b with
    | nil => rfl
    | cons c cs =>
      have hc := hb rfl c rfl
      simp only [goesOnNumber, Bool.or_eq_false_iff, beq_eq_false_iff_ne] at hc
      rw [List.nil_append, takeExponent?_cons, if_neg (by simp [hc])]
  | cons c cs =>
    rw [takeExponent?_cons] at h
    by_cases hmark : c = 'e' ∨ c = 'E'
    · rw [if_pos hmark] at h
      -- Behind the mark there is a digit at least.
      have hcs : cs ≠ [] := by rintro rfl; cases h
      split at h
      · cases h
      next hdigits =>
        cases h
        have hrest := (takeDigits_suffix _).trans (takeSign_suffix cs)
        refine ⟨hrest.trans (List.suffix_cons c cs), fun b hb => ?_⟩
        rw [List.cons_append, takeExponent?_cons, if_pos hmark, takeSign_append hcs,
          takeDigits_append_right fun hrest => (hb hrest).endsDigits]
        exact if_neg hdigits
    · rw [if_neg hmark] at h
      cases h
      refine ⟨List.suffix_rfl, fun b _ => ?_⟩
      rw [List.cons_append, takeExponent?_cons, if_neg hmark]

/-- Whether digits may stand before a point: there are some, and no further
ones behind a leading zero. -/
def isWhole : List Nat → Bool
  | [] => false
  | 0 :: _ :: _ => false
  | _ => true

/-- The numeral with the given digits before its point, and what follows it. -/
def takeParts? (negative : Bool) (whole : List Nat) (cs : List Char) :
    Option (Numeral × List Char) :=
  match takeFraction? cs with
  | none => none
  | some (fraction, afterFraction) =>
    match takeExponent? afterFraction with
    | none => none
    | some (exponent, rest) => some (⟨negative, whole, fraction, exponent⟩, rest)

/-- The numeral at the start of a text, behind its sign. -/
def takeUnsigned? (negative : Bool) (cs : List Char) : Option (Numeral × List Char) :=
  if isWhole (takeDigits cs).1 then takeParts? negative (takeDigits cs).1 (takeDigits cs).2
  else none

theorem take?_minus (cs : List Char) : take? ('-' :: cs) = takeUnsigned? true cs := by
  rw [take?, takeUnsigned?]
  obtain ⟨_ | ⟨_ | _, _ | _⟩, after⟩ := takeDigits cs <;> rfl

theorem take?_of_ne_minus {c : Char} (h : c ≠ '-') (cs : List Char) :
    take? (c :: cs) = takeUnsigned? false (c :: cs) := by
  rw [take?, takeUnsigned?]
  · obtain ⟨_ | ⟨_ | _, _ | _⟩, after⟩ := takeDigits (c :: cs) <;> rfl
  · exact fun _ hc => h (List.cons.inj hc).1

theorem isLocal_takeParts? (negative : Bool) (whole : List Nat) :
    IsLocal (takeParts? negative whole) := by
  intro l rest n h
  unfold takeParts? at h
  split at h
  · cases h
  next fraction afterFraction hfraction =>
    split at h
    · cases h
    next exponent after hexponent =>
      cases h
      obtain ⟨hafter, hread⟩ := isLocal_takeFraction? hfraction
      obtain ⟨hrest, hread'⟩ := isLocal_takeExponent? hexponent
      refine ⟨hrest.trans hafter, fun b hb => ?_⟩
      have hnil : afterFraction = [] → Breaks b := fun h => hb (List.suffix_nil.mp (h ▸ hrest))
      rw [takeParts?, hread b hnil]
      dsimp only
      rw [hread' b hb]

section

variable {negative : Bool} {n : Numeral}

/-- A numeral starts with a digit behind its sign, and ends where it ends
whatever stands further behind. -/
theorem exists_of_takeUnsigned? (h : takeUnsigned? negative l = some (n, rest)) :
    (∃ c cs, l = c :: cs ∧ (digit? c).isSome = true ∧ rest <:+ cs) ∧
      ∀ b, (rest = [] → Breaks b) → takeUnsigned? negative (l ++ b) = some (n, rest ++ b) := by
  unfold takeUnsigned? at h
  split at h
  next hwhole =>
    obtain ⟨hrest, hread⟩ := isLocal_takeParts? _ _ h
    constructor
    · cases l with
      | nil => cases hwhole
      | cons c cs =>
        rw [takeDigits] at hwhole hrest
        cases hc : digit? c with
        | none =>
          rw [hc] at hwhole
          cases hwhole
        | some d =>
          rw [hc] at hrest
          exact ⟨c, cs, rfl, by rw [hc]; rfl, hrest.trans (takeDigits_suffix cs)⟩
    · intro b hb
      have hnil : (takeDigits l).2 = [] → EndsDigits b := fun h =>
        (hb (List.suffix_nil.mp (h ▸ hrest))).endsDigits
      rw [takeUnsigned?, takeDigits_append_right hnil, if_pos hwhole]
      exact hread b hb
  · cases h

/-- A numeral starts with a minus sign or a digit, and ends where it ends
whatever stands further behind. -/
theorem exists_of_take? (h : take? l = some (n, rest)) :
    (∃ c cs, l = c :: cs ∧ (c = '-' ∨ (digit? c).isSome = true) ∧ rest <:+ cs) ∧
      ∀ b, (rest = [] → Breaks b) → take? (l ++ b) = some (n, rest ++ b) := by
  cases l with
  | nil => cases h
  | cons c cs =>
    by_cases hminus : c = '-'
    · subst hminus
      rw [take?_minus] at h
      obtain ⟨⟨d, ds, rfl, -, hrest⟩, hread⟩ := exists_of_takeUnsigned? h
      refine ⟨⟨'-', _, rfl, .inl rfl, hrest.trans (List.suffix_cons d ds)⟩, fun b hb => ?_⟩
      rw [List.cons_append, take?_minus]
      exact hread b hb
    · rw [take?_of_ne_minus hminus] at h
      obtain ⟨⟨d, ds, heq, hd, hrest⟩, hread⟩ := exists_of_takeUnsigned? h
      refine ⟨⟨d, ds, heq, .inr hd, hrest⟩, fun b hb => ?_⟩
      rw [List.cons_append, take?_of_ne_minus hminus]
      exact hread b hb

end

end Numeral

/-! ## Strings -/

/-- A string that is read can be followed by anything: it ends where it says. -/
theorem exists_of_takeUnits? {units : List Nat} (h : takeUnits? l = some (units, rest)) :
    ∃ used, l = used ++ rest ∧ ∀ b, takeUnits? (used ++ b) = some (units, b) := by
  fun_induction takeUnits? l generalizing units rest with
  | case1 cs =>
    cases h
    exact ⟨['"'], rfl, fun _ => rfl⟩
  | case2 x y z w cs _ _ _ _ _ _ hcs hw hz hy hx ih =>
    cases h
    obtain ⟨used, rfl, hused⟩ := ih hcs
    refine ⟨'\\' :: 'u' :: x :: y :: z :: w :: used, rfl, fun b => ?_⟩
    simp only [List.cons_append, takeUnits?, hx, hy, hz, hw, hused]
  | case4 e cs hlong c _ _ hcs he ih =>
    cases h
    obtain ⟨used, rfl, hused⟩ := ih hcs
    have hu : e ≠ 'u' := by rintro rfl; cases he
    refine ⟨'\\' :: e :: used, rfl, fun b => ?_⟩
    rw [List.cons_append, List.cons_append, takeUnits?_short he hu, hused]
    rfl
  | case7 c cs hquote hlong hshort hplain ih =>
    obtain ⟨⟨us, after⟩, hcs, heq⟩ := Option.map_eq_some_iff.mp h
    cases heq
    obtain ⟨used, rfl, hused⟩ := ih hcs
    obtain ⟨hcontrol, hslash⟩ := not_or.mp hplain
    refine ⟨c :: used, rfl, fun b => ?_⟩
    rw [List.cons_append, takeUnits?_plain hquote hslash hcontrol, hused]
    rfl
  | _ => cases h

/-! ## Tokens -/

namespace Token

variable {t : Token} {ts : List Token}

/-- What starts with a digit or a minus sign is read as a number. -/
theorem take?_numeral {c : Char} (h : c = '-' ∨ (digit? c).isSome = true) (cs : List Char) :
    take? (c :: cs) =
      (Numeral.take? (c :: cs)).map fun taken => (.number taken.1.value?, taken.2) := by
  have hno (x : Char) (hx : ¬(x = '-' ∨ (digit? x).isSome = true)) : c ≠ x := by
    rintro rfl
    exact hx h
  rw [take?]
  all_goals
    rintro r hr
    exact hno _ (by decide) (List.cons.inj hr).1

/-- Every token is a number, or it ends where it says. -/
theorem exists_of_take? (h : take? l = some (t, rest)) :
    (∃ n, Numeral.take? l = some (n, rest) ∧ t = .number n.value?) ∨
      ∃ c used, l = c :: (used ++ rest) ∧ ∀ b, take? (c :: (used ++ b)) = some (t, b) := by
  unfold take? at h
  split at h
  case h_10 cs =>
    obtain ⟨⟨units, after⟩, hunits, heq⟩ := Option.map_eq_some_iff.mp h
    cases heq
    obtain ⟨used, rfl, hused⟩ := exists_of_takeUnits? hunits
    refine .inr ⟨'"', used, rfl, fun b => ?_⟩
    rw [take?, hused]
    rfl
  case h_11 =>
    obtain ⟨⟨n, after⟩, hn, heq⟩ := Option.map_eq_some_iff.mp h
    cases heq
    exact .inl ⟨n, hn, rfl⟩
  -- The others are spelled in one way each.
  case h_7 => cases h; exact .inr ⟨'n', ['u', 'l', 'l'], rfl, fun _ => rfl⟩
  case h_8 => cases h; exact .inr ⟨'t', ['r', 'u', 'e'], rfl, fun _ => rfl⟩
  case h_9 => cases h; exact .inr ⟨'f', ['a', 'l', 's', 'e'], rfl, fun _ => rfl⟩
  all_goals
    cases h
    exact .inr ⟨_, [], rfl, fun _ => rfl⟩

/-- A token takes at least one character. -/
theorem exists_cons_of_take? (h : take? l = some (t, rest)) :
    ∃ c cs, l = c :: cs ∧ rest <:+ cs := by
  rcases exists_of_take? h with ⟨n, hn, -⟩ | ⟨c, used, rfl, -⟩
  · obtain ⟨⟨c, cs, rfl, -, hrest⟩, -⟩ := Numeral.exists_of_take? hn
    exact ⟨c, cs, rfl, hrest⟩
  · exact ⟨c, _, rfl, List.suffix_append used rest⟩

/-- A token is the same in front of any text that does not go on with it. -/
theorem take?_append (hb : (∃ n, t = .number n) → rest = [] → Breaks b)
    (h : take? l = some (t, rest)) : take? (l ++ b) = some (t, rest ++ b) := by
  rcases exists_of_take? h with ⟨n, hn, rfl⟩ | ⟨c, used, rfl, hused⟩
  · obtain ⟨⟨c, cs, rfl, hc, -⟩, hread⟩ := Numeral.exists_of_take? hn
    have happend := hread b (hb ⟨_, rfl⟩)
    rw [List.cons_append] at happend ⊢
    rw [take?_numeral hc, happend]
    rfl
  · simpa using hused (rest ++ b)

/-! ## Whole texts -/

/-- Fuel beyond the length of the text is not used. -/
theorem allFrom_eq {cs : List Char} {m n : Nat} (hm : cs.length ≤ m) (hn : cs.length ≤ n) :
    allFrom m cs = allFrom n cs := by
  induction m generalizing cs n with
  | zero =>
    rw [List.eq_nil_of_length_eq_zero (Nat.le_zero.mp hm)]
    cases n <;> rfl
  | succ m ih =>
    cases cs with
    | nil => cases n <;> rfl
    | cons c cs =>
      obtain ⟨n, rfl⟩ : ∃ k, n = k + 1 := ⟨n - 1, by rw [List.length_cons] at hn; omega⟩
      rw [List.length_cons, Nat.add_le_add_iff_right] at hm hn
      rw [allFrom, allFrom]
      split
      · exact ih hm hn
      · split
        · rfl
        next t rest htake =>
          obtain ⟨d, ds, heq, hrest⟩ := exists_cons_of_take? htake
          cases heq
          have hle := hrest.length_le
          rw [ih (Nat.le_trans hle hm) (Nat.le_trans hle hn)]

theorem all?_blank {c : Char} (h : isBlank c = true) (cs : List Char) :
    all? (c :: cs) = all? cs := by
  rw [all?, List.length_cons, allFrom, if_pos h]
  rfl

theorem all?_cons {c : Char} (h : isBlank c = false) (cs : List Char) :
    all? (c :: cs) = (take? (c :: cs)).bind fun taken => (all? taken.2).map (taken.1 :: ·) := by
  rw [all?, List.length_cons, allFrom, if_neg (by simp [h])]
  cases htake : take? (c :: cs) with
  | none => rfl
  | some taken =>
    obtain ⟨d, ds, heq, hrest⟩ := exists_cons_of_take? htake
    cases heq
    dsimp only [Option.bind_some]
    rw [allFrom_eq hrest.length_le (Nat.le_refl _)]
    rfl

theorem take?_blank {c : Char} (h : isBlank c = true) (cs : List Char) :
    take? (c :: cs) = none := by
  simp only [isBlank, Bool.or_eq_true, beq_iff_eq] at h
  obtain ((rfl | rfl) | rfl) | rfl := h <;> rfl

/-- A token in front of a text is its first token. -/
theorem all?_of_take? (h : take? l = some (t, rest)) : all? l = (all? rest).map (t :: ·) := by
  obtain ⟨c, cs, rfl, -⟩ := exists_cons_of_take? h
  have hc : isBlank c = false := by
    rw [← Bool.not_eq_true]
    intro hblank
    rw [take?_blank hblank] at h
    cases h
  rw [all?_cons hc, h]
  rfl

theorem all?_openBrace (cs : List Char) :
    all? ('\x7b' :: cs) = (all? cs).map (.openBrace :: ·) := all?_of_take? rfl

theorem all?_closeBrace (cs : List Char) :
    all? ('\x7d' :: cs) = (all? cs).map (.closeBrace :: ·) := all?_of_take? rfl

theorem all?_comma (cs : List Char) : all? (',' :: cs) = (all? cs).map (.comma :: ·) :=
  all?_of_take? rfl

theorem all?_colon (cs : List Char) : all? (':' :: cs) = (all? cs).map (.colon :: ·) :=
  all?_of_take? rfl

/-- The tokens of a text stay the same in front of any text that does not go
on with a number it ends in. -/
theorem all?_append (hb : (∃ n, ts.getLast? = some (.number n)) → Breaks b)
    (h : all? l = some ts) : all? (l ++ b) = (all? b).map (ts ++ ·) := by
  -- Along the text, a blank or a token at a time.
  induction hlength : l.length using Nat.strongRecOn generalizing l ts with
  | _ length ih =>
    cases l with
    | nil =>
      cases h
      simp
    | cons c cs =>
      subst hlength
      by_cases hblank : isBlank c = true
      · rw [all?_blank hblank] at h
        rw [List.cons_append, all?_blank hblank]
        exact ih cs.length (by simp) hb h rfl
      · rw [all?_cons (by simpa using hblank)] at h
        obtain ⟨⟨t, rest⟩, htake, hall⟩ := Option.bind_eq_some_iff.mp h
        obtain ⟨us, hus, rfl⟩ := Option.map_eq_some_iff.mp hall
        have hshort : rest.length < (c :: cs).length := by
          obtain ⟨d, ds, heq, hrest⟩ := exists_cons_of_take? htake
          cases heq
          have hle := hrest.length_le
          simp only [List.length_cons]
          omega
        have hlast : (∃ n, us.getLast? = some (.number n)) → Breaks b := by
          rintro ⟨n, hn⟩
          exact hb ⟨n, by rw [List.getLast?_cons, hn]; rfl⟩
        have hbehind : (∃ n, t = .number n) → rest = [] → Breaks b := by
          rintro ⟨n, rfl⟩ rfl
          cases hus
          exact hb ⟨n, rfl⟩
        rw [all?_of_take? (take?_append hbehind htake), ih rest.length hshort hlast hus rfl,
          Option.map_map]
        rfl

/-! ## Blanks -/

theorem breaks_of_isBlank {c : Char} (h : isBlank c = true) (cs : List Char) :
    Breaks (c :: cs) := by
  rintro d ⟨⟩
  simp only [isBlank, Bool.or_eq_true, beq_iff_eq] at h
  obtain ((rfl | rfl) | rfl) | rfl := h <;> rfl

/-- Leading blanks are skipped. -/
theorem all?_blanks_append {w : List Char} (hw : ∀ c ∈ w, isBlank c = true) (b : List Char) :
    all? (w ++ b) = all? b := by
  induction w with
  | nil => rfl
  | cons c w ih =>
    obtain ⟨hc, hw⟩ := List.forall_mem_cons.mp hw
    rw [List.cons_append, all?_blank hc, ih hw]

/-- A text without tokens is blank. -/
theorem isBlank_of_all?_eq_nil (h : all? l = some []) : ∀ c ∈ l, isBlank c = true := by
  induction l with
  | nil => nofun
  | cons c cs ih =>
    by_cases hc : isBlank c = true
    · rw [all?_blank hc] at h
      exact List.forall_mem_cons.mpr ⟨hc, ih h⟩
    · rw [all?_cons (by simpa using hc)] at h
      obtain ⟨taken, -, hall⟩ := Option.bind_eq_some_iff.mp h
      obtain ⟨us, -, hus⟩ := Option.map_eq_some_iff.mp hall
      cases hus

/-- Blanks between tokens change nothing. -/
theorem all?_insert_blanks {a w b : List Char} {ta tb : List Token} (hw : ∀ c ∈ w, isBlank c = true)
    (ha : all? a = some ta) (hb : all? b = some tb) (hab : all? (a ++ b) = some (ta ++ tb)) :
    all? (a ++ (w ++ b)) = all? (a ++ b) := by
  cases w with
  | nil => rfl
  | cons c w =>
    have hbreaks : Breaks (c :: w ++ b) := breaks_of_isBlank (hw c List.mem_cons_self) _
    rw [all?_append (fun _ => hbreaks) ha, all?_blanks_append hw, hb, hab]
    rfl

end Token

end Roster
