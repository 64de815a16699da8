/-
Roster.Proofs.Json.Lexing — what is spelled token by token is read token
by token.

`all?_spellAll` holds of texts without numbers.  Its heart is that a
string is read back from its escapes: `takeUnits?` undoes `escapeChars` up
to code units, and since no character is half a surrogate pair the code
units put themselves together again.
-/
import Roster.Json.Print

namespace Roster

/-! ## Digits -/

/-- No digit stands at the start of the text. -/
def EndsDigits (cs : List Char) : Prop := ∀ c ∈ cs.head?, digit? c = none

theorem takeDigits_of_endsDigits {rest : List Char} (h : EndsDigits rest) :
    takeDigits rest = ([], rest) := by
  cases rest with
  | nil => rfl
  | cons c cs =>
    have hc : digit? c = none := h c rfl
    rw [takeDigits, hc]

/-! ## Strings -/

theorem hexDigit?_hexChar {n : Nat} (h : n < 16) : hexDigit? (hexChar n) = some n := by
  have hall : ∀ n : Fin 16, hexDigit? (hexChar n) = some n.val := by decide
  exact hall ⟨n, h⟩

theorem takeUnits?_short {e c : Char} {rest : List Char} (h : shortEscape? e = some c)
    (hu : e ≠ 'u') :
    takeUnits? ('\\' :: e :: rest) =
      (takeUnits? rest).map fun taken => (c.toNat :: taken.1, taken.2) := by
  rw [takeUnits?, h]
  · cases takeUnits? rest <;> rfl
  · exact fun _ _ _ _ _ he => absurd he hu

theorem takeUnits?_plain {c : Char} {rest : List Char} (hquote : c ≠ '"') (hslash : c ≠ '\\')
    (hcontrol : ¬c.toNat < 32) :
    takeUnits? (c :: rest) =
      (takeUnits? rest).map fun taken => (c.toNat :: taken.1, taken.2) := by
  rw [takeUnits?, if_neg (by simp [hslash, hcontrol])]
  · exact hquote
  · exact fun _ _ _ _ _ hc => absurd hc hslash
  · exact fun _ _ hc => absurd hc hslash

/-- An escaped character is read as its one code unit. -/
theorem takeUnits?_escapeChar (c : Char) (rest : List Char) :
    takeUnits? (escapeChar c rest) =
      (takeUnits? rest).map fun taken => (c.toNat :: taken.1, taken.2) := by
  unfold escapeChar
  split
  · subst c; exact takeUnits?_short rfl (by decide)
  split
  · subst c; exact takeUnits?_short rfl (by decide)
  split
  · subst c; exact takeUnits?_short rfl (by decide)
  split
  · subst c; exact takeUnits?_short rfl (by decide)
  split
  · subst c; exact takeUnits?_short rfl (by decide)
  split
  · subst c; exact takeUnits?_short rfl (by decide)
  split
  · subst c; exact takeUnits?_short rfl (by decide)
  split
  next hcontrol =>
    have hhigh : hexDigit? (hexChar (c.toNat / 16)) = some (c.toNat / 16) :=
      hexDigit?_hexChar (by omega)
    have hlow : hexDigit? (hexChar (c.toNat % 16)) = some (c.toNat % 16) :=
      hexDigit?_hexChar (by omega)
    have hzero : hexDigit? '0' = some 0 := by decide
    rw [takeUnits?, hzero, hhigh, hlow]
    cases takeUnits? rest with
    | none => rfl
    | some taken =>
      simp only [Option.map_some, Option.some.injEq, Prod.mk.injEq, List.cons.injEq, and_true]
      omega
  next hquote hslash _ _ _ _ _ hcontrol => exact takeUnits?_plain hquote hslash hcontrol

/-- A string is read as its code units, up to its end. -/
theorem takeUnits?_escapeChars (cs rest : List Char) :
    takeUnits? (escapeChars cs rest) = some (cs.map Char.toNat, rest) := by
  induction cs with
  | nil => rfl
  | cons c cs ih => rw [escapeChars, takeUnits?_escapeChar, ih]; rfl

/-- No character is half a surrogate pair. -/
theorem not_isSurrogate (c : Char) :
    isHighSurrogate c.toNat = false ∧ isLowSurrogate c.toNat = false := by
  have hvalid : c.toNat < 0xD800 ∨ 0xDFFF < c.toNat ∧ c.toNat < 0x110000 := c.valid
  simp only [isHighSurrogate, isLowSurrogate, Bool.and_eq_false_iff, decide_eq_false_iff_not]
  omega

theorem assemble?_map_toNat (cs : List Char) : assemble? (cs.map Char.toNat) = some cs := by
  induction cs with
  | nil => rfl
  | cons c cs ih =>
    obtain ⟨hhigh, hlow⟩ := not_isSurrogate c
    cases cs with
    | nil => simp [assemble?, hhigh, hlow]
    | cons d cs =>
      rw [List.map_cons] at ih
      simp [assemble?, hhigh, hlow, ih]

/-! ## Tokens -/

namespace Token

/-- Whether a token is no number and denotes something. -/
def isPlain : Token → Bool
  | .number _ => false
  | .text none => false
  | _ => true

/-- A spelled token is read back, and what follows it is left. -/
theorem take?_spell {t : Token} (h : t.isPlain = true) (rest : List Char) :
    take? (t.spell rest) = some (t, rest) := by
  cases t with
  | number n => cases h
  | text s =>
    cases s with
    | none => cases h
    | some s =>
      simp [spell, take?, takeUnits?_escapeChars, assemble?_map_toNat]
  | bool b => cases b <;> rfl
  | _ => rfl

theorem length_escapeChar (c : Char) (rest : List Char) :
    rest.length ≤ (escapeChar c rest).length := by
  unfold escapeChar
  repeat' split
  all_goals simp only [List.length_cons]; omega

/-- A spelled token starts with a character that is not blank, and is longer
than what follows. -/
theorem exists_spell {t : Token} (h : t.isPlain = true) (rest : List Char) :
    ∃ c cs, t.spell rest = c :: cs ∧ isBlank c = false ∧ rest.length ≤ cs.length := by
  have hescape (s rest : List Char) : rest.length ≤ (escapeChars s rest).length := by
    induction s with
    | nil => simp [escapeChars]
    | cons c s ih =>
      rw [escapeChars]
      exact Nat.le_trans ih (length_escapeChar c _)
  cases t with
  | number n => cases h
  | text s =>
    cases s with
    | none => cases h
    | some s => exact ⟨'"', _, rfl, rfl, hescape s.toList rest⟩
  | null => exact ⟨'n', 'u' :: 'l' :: 'l' :: rest, rfl, rfl, Nat.le_add_right _ 3⟩
  | bool b =>
    cases b with
    | false => exact ⟨'f', 'a' :: 'l' :: 's' :: 'e' :: rest, rfl, rfl, Nat.le_add_right _ 4⟩
    | true => exact ⟨'t', 'r' :: 'u' :: 'e' :: rest, rfl, rfl, Nat.le_add_right _ 3⟩
  | _ => exact ⟨_, rest, rfl, rfl, Nat.le_refl _⟩

theorem allFrom_spellAll {ts : List Token} (h : ∀ t ∈ ts, t.isPlain = true) {fuel : Nat}
    (hfuel : (spellAll ts).length ≤ fuel) : allFrom fuel (spellAll ts) = some ts := by
  induction ts generalizing fuel with
  | nil => cases fuel <;> rfl
  | cons t ts ih =>
    have ht := h t List.mem_cons_self
    obtain ⟨c, cs, hspell, hblank, hlength⟩ := exists_spell ht (spellAll ts)
    have htake := take?_spell ht (spellAll ts)
    rw [spellAll] at hfuel ⊢
    rw [hspell] at hfuel htake ⊢
    cases fuel with
    | zero => cases hfuel
    | succ fuel =>
      have hrest : allFrom fuel (spellAll ts) = some ts :=
        ih (fun x hx => h x (List.mem_cons_of_mem _ hx))
          (by simp only [List.length_cons] at hfuel; omega)
      rw [allFrom, hblank, htake]
      simp [hrest]

/-- Spelled tokens are read back. -/
theorem all?_spellAll {ts : List Token} (h : ∀ t ∈ ts, t.isPlain = true) :
    all? (spellAll ts) = some ts := allFrom_spellAll h (Nat.le_refl _)

end Token

end Roster
