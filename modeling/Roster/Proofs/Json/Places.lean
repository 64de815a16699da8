/-
Roster.Proofs.Json.Places — an object inside a text, and the document
around it.

A text that is cut in front of an object and behind it reads as a document
with a hole: whatever object stands between, its entries end up in the same
place (`parse?_around`).  The reader in front of the hole has a stack of
open containers, the document has the layers around the hole that these
containers become once they are closed, and both have the same keys on the
way to the hole.

The text behind the hole is followed by induction on its tokens, over all
values in the hole at once (`Fills`): the reader never looks at a value it
has read.
-/
import Roster.Json.Document
import Roster.Proofs.Json.Joining

namespace Roster

namespace Document

/-! ## Documents with a hole -/

/-- A container around a hole. -/
inductive Layer where
  /-- A list with the items before and behind the hole. -/
  | item (front back : List Document)
  /-- An object with the key of the hole and the entries before and behind. -/
  | entry (front : List (Option String × Document)) (key : Option String)
      (back : List (Option String × Document))

/-- Fill the hole of a container. -/
def Layer.fill : Layer → Document → Document
  | .item front back, d => .list (front ++ d :: back)
  | .entry front key back, d => .object (front ++ (key, d) :: back)

/-- The key of the hole in a container. -/
def Layer.key? : Layer → Option String
  | .item _ _ => none
  | .entry _ key _ => key

/-- Fill the hole inside all of some containers, the innermost one first. -/
def fillAll : List Layer → Document → Document
  | [], d => d
  | layer :: outer, d => fillAll outer (layer.fill d)

/-- The key of the value that is being read in an open container. -/
def Frame.key? : Frame → Option String
  | .items _ => none
  | .entry _ key => key

/-! ## Reading inside open containers -/

/-- A state with further containers open around it. -/
def State.under (outer : List Frame) : State → State
  | .value stack => .value (stack ++ outer)
  | .firstItem stack => .firstItem (stack ++ outer)
  | .afterItem done stack => .afterItem done (stack ++ outer)
  | .firstKey stack => .firstKey (stack ++ outer)
  | .nextKey done stack => .nextKey done (stack ++ outer)
  | .afterKey done key stack => .afterKey done key (stack ++ outer)
  | .afterEntry done stack => .afterEntry done (stack ++ outer)
  | .complete d => deliver d outer

theorem deliver_append (v : Document) (stack outer : List Frame) :
    deliver v (stack ++ outer) = (deliver v stack).under outer := by
  cases stack with
  | nil => rfl
  | cons frame stack => cases frame <;> rfl

namespace State

variable {s r : State} {t : Token} {ts : List Token}

theorem run_append (s : State) (ts us : List Token) :
    s.run (ts ++ us) = (s.run ts).bind fun r => r.run us := by
  induction ts generalizing s with
  | nil => rfl
  | cons t ts ih =>
    rw [List.cons_append, run, run, Option.bind_assoc]
    exact Option.bind_congr fun r _ => ih r

theorem begin?_append (stack outer : List Frame) (t : Token) :
    begin? (stack ++ outer) t = (begin? stack t).map (under outer) := by
  cases t <;> simp [begin?, deliver_append, under]

/-- A token is read alike in whatever containers are open around it. -/
theorem step_under (hs : s.complete? = none) (t : Token) (outer : List Frame) :
    (s.under outer).step t = (s.step t).map (under outer) := by
  cases s with
  | complete d => cases hs
  | value stack => exact begin?_append stack outer t
  | firstItem stack =>
    have hitem := begin?_append (.items [] :: stack) outer t
    cases t <;> first | exact hitem | simp [under, step, deliver_append]
  | _ => cases t <;> simp [under, step, deliver_append]

theorem complete?_eq_none_of_step (h : s.step t = some r) : s.complete? = none := by
  cases s with
  | complete d => cases h
  | _ => rfl

theorem run_under (h : s.run ts = some r) (outer : List Frame) :
    (s.under outer).run ts = some (r.under outer) := by
  induction ts generalizing s with
  | nil =>
    cases h
    rfl
  | cons t ts ih =>
    rw [run] at h
    obtain ⟨q, hq, hrun⟩ := Option.bind_eq_some_iff.mp h
    rw [run, step_under (complete?_eq_none_of_step hq), hq]
    exact ih hrun

end State

theorem run_value {ts : List Token} {d : Document} (h : ofTokens? ts = some d)
    (outer : List Frame) : (State.value outer).run ts = some (deliver d outer) := by
  obtain ⟨r, hrun, hr⟩ := Option.bind_eq_some_iff.mp h
  cases r with
  | complete e =>
    cases hr
    exact State.run_under hrun outer
  | _ => cases hr

/-- The value that tokens begin with is the same in whatever containers are
open around it, if it ends at all. -/
theorem run_first {s : State} (hs : s.complete? = none) (ts : List Token) :
    (∀ outer, ((s.under outer).run ts).bind State.complete? = none) ∨
      ∃ m rest, rest.length < ts.length ∧
        ∀ outer, (s.under outer).run ts = (deliver m outer).run rest := by
  induction ts generalizing s with
  | nil =>
    refine .inl fun outer => ?_
    cases s with
    | complete d => cases hs
    | _ => rfl
  | cons t ts ih =>
    cases hstep : s.step t with
    | none =>
      refine .inl fun outer => ?_
      rw [State.run, State.step_under hs, hstep]
      rfl
    | some r =>
      have hrun (outer : List Frame) : (s.under outer).run (t :: ts) = (r.under outer).run ts := by
        rw [State.run, State.step_under hs, hstep]
        rfl
      by_cases hr : r.complete? = none
      · obtain hnever | ⟨m, rest, hlt, hrest⟩ := ih hr
        · exact .inl fun outer => by rw [hrun, hnever]
        · exact .inr ⟨m, rest, Nat.lt_succ_of_lt hlt, fun outer => by rw [hrun, hrest]⟩
      · cases r with
        | complete m => exact .inr ⟨m, ts, Nat.lt_succ_self _, hrun⟩
        | _ => exact absurd rfl hr

/-- A key and a colon stand in front of the value of an entry. -/
theorem run_key (ts : List Token) :
    (∀ done stack, ((State.nextKey done stack).run ts).bind State.complete? = none) ∨
      ∃ key rest, rest.length < ts.length ∧ ∀ done stack,
        (State.nextKey done stack).run ts = (State.value (.entry done key :: stack)).run rest := by
  cases ts with
  | nil => exact .inl fun _ _ => rfl
  | cons t ts =>
    cases t with
    | text key =>
      cases ts with
      | nil => exact .inl fun _ _ => rfl
      | cons t rest =>
        cases t with
        | colon => exact .inr ⟨key, rest, by simp only [List.length_cons]; omega, fun _ _ => rfl⟩
        | _ => exact .inl fun _ _ => rfl
    | _ => exact .inl fun _ _ => rfl

/-! ## Reading on behind a hole -/

/-- Reading on from a state with a hole never completes a document, or
completes one with the hole in the given place. -/
def Fills (place : List (Option String)) (state : Document → State) (ts : List Token) : Prop :=
  (∀ v, ((state v).run ts).bind State.complete? = none) ∨
    ∃ layers : List Layer, layers.map Layer.key? = place ∧
      ∀ v, ((state v).run ts).bind State.complete? = some (fillAll layers v)

variable {place : List (Option String)} {ts : List Token}

theorem fills_of_never {state : Document → State}
    (h : ∀ v, (state v).run ts = none) : Fills place state ts :=
  .inl fun v => by rw [h]; rfl

/-- Tokens may be read first, if they are the same for every value. -/
theorem Fills.of_run {state state' : Document → State} {us : List Token}
    (h : Fills place state' us) (hrun : ∀ v, (state v).run ts = (state' v).run us) :
    Fills place state ts := by
  obtain hnever | ⟨layers, hkeys, hfill⟩ := h
  · exact .inl fun v => by rw [hrun, hnever]
  · exact .inr ⟨layers, hkeys, fun v => by rw [hrun, hfill]⟩

/-- A container that is closed becomes a layer around the hole. -/
theorem Fills.close {stack : List Frame} (layer : Layer)
    (h : Fills (stack.map Frame.key?) (fun v => deliver v stack) ts) :
    Fills (layer.key? :: stack.map Frame.key?) (fun v => deliver (layer.fill v) stack) ts := by
  obtain hnever | ⟨layers, hkeys, hfill⟩ := h
  · exact .inl fun v => hnever (layer.fill v)
  · exact .inr ⟨layer :: layers, by rw [List.map_cons, hkeys], fun v => hfill (layer.fill v)⟩

/-- A hole among the items that were read of a list. -/
def itemHole (front back : List Document) (stack : List Frame) (v : Document) : State :=
  .afterItem (back ++ v :: front) stack

/-- A hole among the entries that were read of an object. -/
def entryHole (front : List (Option String × Document)) (key : Option String)
    (back : List (Option String × Document)) (stack : List Frame) (v : Document) : State :=
  .afterEntry (back ++ (key, v) :: front) stack

theorem fills_deliver
    (hitem : ∀ front back stack,
      Fills (none :: stack.map Frame.key?) (itemHole front back stack) ts)
    (hentry : ∀ front key back stack,
      Fills (key :: stack.map Frame.key?) (entryHole front key back stack) ts)
    (stack : List Frame) : Fills (stack.map Frame.key?) (fun v => deliver v stack) ts := by
  cases stack with
  | nil =>
    cases ts with
    | nil => exact .inr ⟨[], rfl, fun _ => rfl⟩
    | cons t ts => exact fills_of_never fun _ => rfl
  | cons frame stack =>
    cases frame with
    | items done => exact hitem done [] stack
    | entry done key => exact hentry done key [] stack

/-- The next value of a container that goes on is read before its end. -/
theorem fills_of_value {place : List (Option String)} {frame : Document → Frame}
    {stack : List Frame} (ts : List Token)
    (h : ∀ m rest, rest.length < ts.length →
      Fills place (fun v => deliver m (frame v :: stack)) rest) :
    Fills place (fun v => .value (frame v :: stack)) ts := by
  obtain hnever | ⟨m, rest, hlt, hrest⟩ := run_first (s := .value []) rfl ts
  · exact .inl fun v => hnever (frame v :: stack)
  · exact (h m rest hlt).of_run fun v => hrest (frame v :: stack)

/-- Reading on behind a hole in a container that is still open: the container
is closed, or another value is read first. -/
theorem fills_holes (ts : List Token) :
    (∀ front back stack, Fills (none :: stack.map Frame.key?) (itemHole front back stack) ts) ∧
      ∀ front key back stack,
        Fills (key :: stack.map Frame.key?) (entryHole front key back stack) ts := by
  induction hlength : ts.length using Nat.strongRecOn generalizing ts with
  | _ length ih =>
    subst hlength
    cases ts with
    | nil => exact ⟨fun _ _ _ => .inl fun _ => rfl, fun _ _ _ _ => .inl fun _ => rfl⟩
    | cons t ts =>
      have hshort {rest : List Token} (h : rest.length ≤ ts.length) :=
        ih rest.length (Nat.lt_succ_of_le h) rest rfl
      have hbehind := fills_deliver (hshort (Nat.le_refl ts.length)).1 (hshort (Nat.le_refl _)).2
      refine ⟨fun front back stack => ?_, fun front key back stack => ?_⟩
      · cases t with
        | closeBracket =>
          refine ((hbehind stack).close (.item front.reverse back.reverse)).of_run fun v => ?_
          simp [itemHole, State.run, State.step, Layer.fill]
        | comma =>
          exact (fills_of_value ts fun m rest hlt =>
            (hshort (Nat.le_of_lt hlt)).1 front (m :: back) stack).of_run fun _ => rfl
        | _ => exact fills_of_never fun _ => rfl
      · cases t with
        | closeBrace =>
          refine ((hbehind stack).close (.entry front.reverse key back.reverse)).of_run fun v => ?_
          simp [entryHole, State.run, State.step, Layer.fill]
        | comma =>
          obtain hnever | ⟨next, us, hlt, hus⟩ := run_key ts
          · exact .inl fun v => hnever _ stack
          · refine (fills_of_value us fun m rest hrest => ?_).of_run fun v => hus _ stack
            exact (hshort (by omega)).2 front key ((next, m) :: back) stack
        | _ => exact fills_of_never fun _ => rfl

/-- Reading on behind a value. -/
theorem fills (stack : List Frame) (ts : List Token) :
    Fills (stack.map Frame.key?) (fun v => deliver v stack) ts :=
  fills_deliver (fills_holes ts).1 (fills_holes ts).2 stack

/-! ## Objects as they are spelled -/

/-- An entry of an object as it is spelled: a text that is one key, a colon,
and a text that is one document. -/
structure EntryText where
  keyText : String
  valueText : String
  key : Option String
  value : Document
  reads_key : Token.all? keyText.toList = some [.text key]
  reads_value : parse? valueText = some value

/-- An object as it is spelled. -/
structure ObjectText where
  /-- What stands behind the opening brace. -/
  blanks : String
  entries : List EntryText
  blank : ∀ c ∈ blanks.toList, Token.isBlank c = true

namespace EntryText

/-- The characters of an entry. -/
def chars (e : EntryText) : List Char := e.keyText.toList ++ ':' :: e.valueText.toList

/-- The entry of the document. -/
def entry (e : EntryText) : Option String × Document := (e.key, e.value)

/-- The characters of entries with commas between them. -/
def listed : List EntryText → List Char
  | [] => []
  | e :: es => e.chars ++ es.flatMap fun e => ',' :: e.chars

end EntryText

namespace ObjectText

/-- The characters of an object. -/
def chars (o : ObjectText) : List Char :=
  '\x7b' :: (o.blanks.toList ++ (EntryText.listed o.entries ++ ['\x7d']))

/-- The text of an object. -/
def text (o : ObjectText) : String := String.ofList o.chars

/-- The document that an object spells. -/
def document (o : ObjectText) : Document := .object (o.entries.map EntryText.entry)

end ObjectText

theorem exists_tokens_of_parse? {text : String} {d : Document} (h : parse? text = some d) :
    ∃ ts, Token.all? text.toList = some ts ∧ ofTokens? ts = some d :=
  Option.bind_eq_some_iff.mp h

/-- An entry hands over its key and its value, at the start of an object and
further on. -/
theorem EntryText.exists_tokens (e : EntryText) :
    ∃ ts, (∀ b, Token.Breaks b → Token.all? (e.chars ++ b) = (Token.all? b).map (ts ++ ·)) ∧
      (∀ stack, (State.firstKey stack).run ts = some (.afterEntry [e.entry] stack)) ∧
      ∀ done stack,
        (State.nextKey done stack).run ts = some (.afterEntry (e.entry :: done) stack) := by
  obtain ⟨vs, hvs, hvalue⟩ := exists_tokens_of_parse? e.reads_value
  refine ⟨.text e.key :: .colon :: vs, fun b hb => ?_, fun stack => ?_, fun done stack => ?_⟩
  · have hcolon : Token.Breaks (':' :: (e.valueText.toList ++ b)) := by rintro c ⟨⟩; rfl
    rw [chars, List.append_assoc, List.cons_append,
      Token.all?_append (fun _ => hcolon) e.reads_key,
      Token.all?_colon, Token.all?_append (fun _ => hb) hvs]
    simp [Function.comp_def]
  · exact run_value hvalue _
  · exact run_value hvalue _

/-- What stands behind an entry of an object: the further entries and its end. -/
def EntryText.further (es : List EntryText) (b : List Char) : List Char :=
  es.flatMap (fun e => ',' :: e.chars) ++ '\x7d' :: b

theorem EntryText.further_cons (e : EntryText) (es : List EntryText) (b : List Char) :
    further (e :: es) b = ',' :: (e.chars ++ further es b) := by
  simp [further]

theorem EntryText.breaks_further (es : List EntryText) (b : List Char) :
    Token.Breaks (further es b) := by
  cases es <;> rintro c ⟨⟩ <;> rfl

theorem EntryText.exists_tokens_further (es : List EntryText) :
    ∃ ts, (∀ b, Token.all? (further es b) = (Token.all? b).map (ts ++ ·)) ∧
      ∀ done stack, (State.afterEntry done stack).run ts =
        some (deliver (.object (done.reverse ++ es.map entry)) stack) := by
  induction es with
  | nil =>
    refine ⟨[.closeBrace], Token.all?_closeBrace, fun done stack => ?_⟩
    simp [State.run, State.step]
  | cons e es ih =>
    obtain ⟨ts, hts, hrun⟩ := ih
    obtain ⟨us, hus, -, hentry⟩ := e.exists_tokens
    refine ⟨.comma :: (us ++ ts), fun b => ?_, fun done stack => ?_⟩
    · rw [further_cons, Token.all?_comma, hus _ (breaks_further es b), hts]
      simp [Function.comp_def]
    · show (State.nextKey done stack).run (us ++ ts) = _
      rw [State.run_append, hentry, Option.bind_some, hrun]
      simp

/-- An object hands over its document, whatever it stands in and whatever
follows. -/
theorem ObjectText.exists_tokens (o : ObjectText) :
    ∃ ts, (∀ b, Token.all? (o.chars ++ b) = (Token.all? b).map (.openBrace :: ts ++ ·)) ∧
      ∀ stack, (State.firstKey stack).run ts = some (deliver o.document stack) := by
  obtain ⟨blanks, entries, hblank⟩ := o
  cases entries with
  | nil =>
    refine ⟨[.closeBrace], fun b => ?_, fun stack => rfl⟩
    have hchars : chars ⟨blanks, [], hblank⟩ ++ b =
        '\x7b' :: (blanks.toList ++ '\x7d' :: b) := by
      simp [chars, EntryText.listed]
    rw [hchars, Token.all?_openBrace, Token.all?_blanks_append hblank,
      Token.all?_closeBrace]
    simp [Function.comp_def]
  | cons e es =>
    obtain ⟨us, hus, hentry, -⟩ := e.exists_tokens
    obtain ⟨ts, hts, hrun⟩ := EntryText.exists_tokens_further es
    refine ⟨us ++ ts, fun b => ?_, fun stack => ?_⟩
    · have hchars : chars ⟨blanks, e :: es, hblank⟩ ++ b =
          '\x7b' :: (blanks.toList ++ (e.chars ++ EntryText.further es b)) := by
        simp [chars, EntryText.listed, EntryText.further]
      rw [hchars, Token.all?_openBrace, Token.all?_blanks_append hblank,
        hus _ (EntryText.breaks_further es b), hts]
      simp [Function.comp_def]
    · rw [State.run_append, hentry, Option.bind_some, hrun]
      rfl

/-! ## The document around an object -/

/-- The containers open around a value that may begin next. -/
def State.opening? : State → Option (List Frame)
  | .value stack => some stack
  | .firstItem stack => some (.items [] :: stack)
  | _ => none

theorem State.step_openBrace (s : State) :
    s.step .openBrace = s.opening?.map .firstKey := by cases s <;> rfl

/-- Where a value stands that begins behind a text: the keys under which it is
found, the innermost one first. -/
def placeBehind? (before : String) : Option (List (Option String)) :=
  (Token.all? before.toList).bind fun ts =>
    ((State.value []).run ts).bind fun s => s.opening?.map (·.map Frame.key?)

/-- Reading an object between two texts is handing it to the containers that
are open behind the first. -/
theorem parse?_between {before : String} {ts : List Token}
    (hbefore : Token.all? before.toList = some ts) (o : ObjectText) (behind : String) :
    parse? (before ++ o.text ++ behind) =
      (Token.all? behind.toList).bind fun us => ((State.value []).run ts).bind fun s =>
        s.opening?.bind fun stack => ((deliver o.document stack).run us).bind State.complete? := by
  obtain ⟨os, hos, hobject⟩ := o.exists_tokens
  have hbrace : Token.Breaks (o.chars ++ behind.toList) := by rintro c ⟨⟩; rfl
  have htext : (before ++ o.text ++ behind).toList =
      before.toList ++ (o.chars ++ behind.toList) := by
    simp [ObjectText.text]
  rw [parse?, ofChars?, htext, Token.all?_append (fun _ => hbrace) hbefore, hos, Option.map_map]
  cases Token.all? behind.toList with
  | none => rfl
  | some us =>
    have hrun (s : State) : s.run (.openBrace :: os ++ us) =
        s.opening?.bind fun stack => (deliver o.document stack).run us := by
      rw [List.cons_append, State.run, State.step_openBrace]
      cases s.opening? with
      | none => rfl
      | some stack =>
        show (State.firstKey stack).run (os ++ us) = _
        rw [State.run_append, hobject]
        rfl
    show ofTokens? (ts ++ (.openBrace :: os ++ us)) = _
    rw [ofTokens?, State.run_append, Option.bind_assoc]
    refine Option.bind_congr fun s _ => ?_
    rw [hrun, Option.bind_assoc]

/-- A text of whole tokens with an object and another text behind it spells no
document, whichever object it is, or a document with the object in the place
that the text in front gives it. -/
theorem parse?_around {before : String} {ts : List Token}
    (hbefore : Token.all? before.toList = some ts) (behind : String) :
    (∀ o : ObjectText, parse? (before ++ o.text ++ behind) = none) ∨
      ∃ layers : List Layer, placeBehind? before = some (layers.map Layer.key?) ∧
        ∀ o : ObjectText,
          parse? (before ++ o.text ++ behind) = some (fillAll layers o.document) := by
  simp only [parse?_between hbefore, placeBehind?, hbefore, Option.bind_some]
  cases Token.all? behind.toList with
  | none => exact .inl fun _ => rfl
  | some us =>
    cases (State.value []).run ts with
    | none => exact .inl fun _ => rfl
    | some s =>
      dsimp only [Option.bind_some]
      cases s.opening? with
      | none => exact .inl fun _ => rfl
      | some stack =>
        obtain hnever | ⟨layers, hkeys, hfill⟩ := fills stack us
        · exact .inl fun o => hnever o.document
        · exact .inr ⟨layers, congrArg some hkeys.symm, fun o => hfill o.document⟩

end Document

end Roster
