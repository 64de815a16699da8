/-
Roster.Proofs.Json.Reading — a printed value is read back as its document.

The reader is a machine with a stack of open containers, the printer goes
down the value; `run_tokens` says that reading the tokens of a value is
handing its document to the innermost open container, whatever follows.
`parse?_compact` is the round trip through text, for values without
numbers; an encoded text that has none is read exactly as it was written.
-/
import Roster.Json.Document
import Roster.Proofs.Json.Lexing

namespace Roster

open Document

namespace Document

/-- The first item of a list is read like any value. -/
theorem run_firstItem (stack : List Frame) (x : Json) (rest : List Token) :
    (State.firstItem stack).run (x.tokens rest) =
      (State.value (.items [] :: stack)).run (x.tokens rest) := by
  cases x with
  | list items => cases items <;> rfl
  | object entries => cases entries <;> rfl
  | _ => rfl

mutual

/-- Reading the tokens of a value hands over its document. -/
theorem run_tokens (stack : List Frame) (rest : List Token) :
    ∀ j : Json, (State.value stack).run (j.tokens rest) = (deliver j.toDocument stack).run rest
  | .null => rfl
  | .bool _ => rfl
  | .number _ => rfl
  | .text _ => rfl
  | .list [] => rfl
  | .list (x :: xs) => by
    show (State.firstItem stack).run _ = _
    rw [run_firstItem, run_tokens]
    exact run_itemTokens [x.toDocument] stack rest xs
  | .object [] => rfl
  | .object ((k, v) :: es) => by
    show (State.value (.entry [] (some k) :: stack)).run _ = _
    rw [run_tokens]
    exact run_entryTokens [(some k, v.toDocument)] stack rest es

/-- The further items of a list join those read before. -/
theorem run_itemTokens (done : List Document) (stack : List Frame) (rest : List Token) :
    ∀ items : List Json,
      (State.afterItem done stack).run (Json.itemTokens items (.closeBracket :: rest)) =
        (deliver (.list (done.reverse ++ Json.itemDocuments items)) stack).run rest
  | [] => by
    rw [Json.itemDocuments, List.append_nil]
    rfl
  | x :: xs => by
    show (State.value (.items done :: stack)).run _ = _
    rw [run_tokens]
    have hrest := run_itemTokens (x.toDocument :: done) stack rest xs
    rw [List.reverse_cons, List.append_assoc] at hrest
    exact hrest

/-- The further entries of an object join those read before. -/
theorem run_entryTokens (done : List (Option String × Document)) (stack : List Frame)
    (rest : List Token) :
    ∀ entries : List (String × Json),
      (State.afterEntry done stack).run (Json.entryTokens entries (.closeBrace :: rest)) =
        (deliver (.object (done.reverse ++ Json.entryDocuments entries)) stack).run rest
  | [] => by
    rw [Json.entryDocuments, List.append_nil]
    rfl
  | (k, v) :: es => by
    show (State.value (.entry done (some k) :: stack)).run _ = _
    rw [run_tokens]
    have hrest := run_entryTokens ((some k, v.toDocument) :: done) stack rest es
    rw [List.reverse_cons, List.append_assoc] at hrest
    exact hrest

end

/-- The tokens of a value spell its document. -/
theorem ofTokens?_tokens (j : Json) : ofTokens? (j.tokens []) = some j.toDocument := by
  rw [ofTokens?, run_tokens]
  rfl

end Document

namespace Json

mutual

/-- Whether a value has no number in it. -/
def isNumberFree : Json → Bool
  | .number _ => false
  | .list items => itemsAreNumberFree items
  | .object entries => entriesAreNumberFree entries
  | _ => true

/-- Whether items have no number in them. -/
def itemsAreNumberFree : List Json → Bool
  | [] => true
  | j :: js => j.isNumberFree && itemsAreNumberFree js

/-- Whether entries have no number in them. -/
def entriesAreNumberFree : List (String × Json) → Bool
  | [] => true
  | (_, j) :: es => j.isNumberFree && entriesAreNumberFree es

end

theorem itemsAreNumberFree_iff {items : List Json} :
    itemsAreNumberFree items = true ↔ ∀ j ∈ items, j.isNumberFree = true := by
  induction items with
  | nil => simp [itemsAreNumberFree]
  | cons j js ih => simp [itemsAreNumberFree, ih]

theorem entriesAreNumberFree_iff {entries : List (String × Json)} :
    entriesAreNumberFree entries = true ↔ ∀ e ∈ entries, e.2.isNumberFree = true := by
  induction entries with
  | nil => simp [entriesAreNumberFree]
  | cons e es ih => simp [entriesAreNumberFree, ih]

mutual

/-- A value without numbers is laid out in plain tokens. -/
theorem tokens_arePlain (rest : List Token) (hrest : ∀ t ∈ rest, t.isPlain = true) :
    ∀ j : Json, j.isNumberFree = true → ∀ t ∈ j.tokens rest, t.isPlain = true
  | .null, _ => by simpa [tokens, Token.isPlain] using hrest
  | .bool _, _ => by simpa [tokens, Token.isPlain] using hrest
  | .number _, h => by cases h
  | .text _, _ => by simpa [tokens, Token.isPlain] using hrest
  | .list [], _ => by simpa [tokens, Token.isPlain] using hrest
  | .list (x :: xs), h => by
    obtain ⟨hx, hxs⟩ := Bool.and_eq_true_iff.mp h
    have hclose : ∀ t ∈ Token.closeBracket :: rest, t.isPlain = true := by
      simpa [Token.isPlain] using hrest
    have hall := tokens_arePlain _ (itemTokens_arePlain _ hclose xs hxs) x hx
    simpa [tokens, Token.isPlain] using hall
  | .object [], _ => by simpa [tokens, Token.isPlain] using hrest
  | .object ((k, v) :: es), h => by
    obtain ⟨hv, hes⟩ := Bool.and_eq_true_iff.mp h
    have hclose : ∀ t ∈ Token.closeBrace :: rest, t.isPlain = true := by
      simpa [Token.isPlain] using hrest
    have hall := tokens_arePlain _ (entryTokens_arePlain _ hclose es hes) v hv
    simpa [tokens, Token.isPlain] using hall

theorem itemTokens_arePlain (rest : List Token) (hrest : ∀ t ∈ rest, t.isPlain = true) :
    ∀ items : List Json, itemsAreNumberFree items = true →
      ∀ t ∈ itemTokens items rest, t.isPlain = true
  | [], _ => hrest
  | x :: xs, h => by
    obtain ⟨hx, hxs⟩ := Bool.and_eq_true_iff.mp h
    have hall := tokens_arePlain _ (itemTokens_arePlain rest hrest xs hxs) x hx
    simpa [itemTokens, Token.isPlain] using hall

theorem entryTokens_arePlain (rest : List Token) (hrest : ∀ t ∈ rest, t.isPlain = true) :
    ∀ entries : List (String × Json), entriesAreNumberFree entries = true →
      ∀ t ∈ entryTokens entries rest, t.isPlain = true
  | [], _ => hrest
  | (k, v) :: es, h => by
    obtain ⟨hv, hes⟩ := Bool.and_eq_true_iff.mp h
    have hall := tokens_arePlain _ (entryTokens_arePlain rest hrest es hes) v hv
    simpa [entryTokens, Token.isPlain] using hall

end

/-- The compact text of a value without numbers is read back as its document. -/
theorem parse?_compact {j : Json} (h : j.isNumberFree = true) :
    Document.parse? j.compact = some j.toDocument := by
  have htokens := Token.all?_spellAll (tokens_arePlain [] (by simp) j h)
  rw [Document.parse?, Document.ofChars?, compact, String.toList_ofList, chars, htokens]
  exact Document.ofTokens?_tokens j

end Json

end Roster
