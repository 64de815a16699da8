/-
Roster.Proofs.Classification — what the two classifications of errors say.

An error is a tree: contexts and collections on the way, causes at the ends
(`Error.causes`).  Whether trying again may help is up to all causes
together: `isRetryable_iff_causes`.  Whether the object is not there is up
to one cause, and only if the way to it is plain (`Error.LeadsTo`): a
collection of several failures does not speak for any of them.  So an error
that says that an object is missing has no other cause
(`LeadsTo.causes_eq`), and is retryable.
-/
import Roster.Error

namespace Roster.Error

/-! ## Causes -/

mutual

/-- What an error comes from in the end, context and collections taken away. -/
def causes : Error → List Error
  | .wrapped _ source => source.causes
  | .aggregate first others => first.causes ++ allCauses others
  | e => [e]

/-- What the errors of a list come from. -/
def allCauses : List Error → List Error
  | [] => []
  | e :: es => e.causes ++ allCauses es

end

/-- Whether an error comes from nothing else: it is no context, and no
collection. -/
def isCause : Error → Bool
  | .wrapped _ _ => false
  | .aggregate _ _ => false
  | _ => true

/-- Whether an error says that a rule is broken, that something cannot be written
or read, or that what is relied on does not hold: trying again does not help. -/
def isPermanent : Error → Bool
  | .validation _ _ _ => true
  | .serialization _ _ => true
  | .invariant _ _ => true
  | _ => false

theorem causes_of_isCause {e : Error} (h : e.isCause = true) : e.causes = [e] := by
  cases e with
  | wrapped | aggregate => cases h
  | _ => rfl

mutual

/-- The causes of an error come from nothing else. -/
theorem isCause_of_mem_causes : ∀ {e c : Error}, c ∈ e.causes → c.isCause = true
  | .wrapped _ source, _, h => isCause_of_mem_causes (e := source) h
  | .aggregate first others, _, h => by
    rw [causes, List.mem_append] at h
    exact h.elim isCause_of_mem_causes isCause_of_mem_allCauses
  | .api _, _, h | .unreadable, _, h | .unsendable _, _, h | .validation _ _ _, _, h
  | .serialization _ _, _, h | .notFound _ _, _, h | .conditionCheck _ _ _ _, _, h
  | .invariant _ _, _, h | .internal _ _, _, h => List.mem_singleton.mp h ▸ rfl

theorem isCause_of_mem_allCauses : ∀ {es : List Error} {c : Error},
    c ∈ allCauses es → c.isCause = true
  | [], _, h => nomatch h
  | e :: es, _, h => by
    rw [allCauses, List.mem_append] at h
    exact h.elim isCause_of_mem_causes isCause_of_mem_allCauses

end

/-! ## Trying again -/

mutual

/-- An error is retryable when all its causes are. -/
theorem isRetryable_iff : ∀ e : Error, e.isRetryable = true ↔ ∀ c ∈ e.causes, c.isRetryable = true
  | .wrapped _ source => source.isRetryable_iff
  | .aggregate first others => by
    rw [isRetryable, causes, List.forall_mem_append, Bool.and_eq_true, first.isRetryable_iff,
      allRetryable_iff others]
  | .api _ => by simp [causes]
  | .unreadable => by simp [causes]
  | .unsendable _ => by simp [causes]
  | .validation _ _ _ => by simp [causes]
  | .serialization _ _ => by simp [causes]
  | .notFound _ _ => by simp [causes]
  | .conditionCheck _ _ _ _ => by simp [causes]
  | .invariant _ _ => by simp [causes]
  | .internal _ _ => by simp [causes]

theorem allRetryable_iff : ∀ es : List Error,
    allRetryable es = true ↔ ∀ c ∈ allCauses es, c.isRetryable = true
  | [] => by simp [allRetryable, allCauses]
  | e :: es => by
    rw [allRetryable, allCauses, List.forall_mem_append, Bool.and_eq_true, e.isRetryable_iff,
      allRetryable_iff es]

end

theorem isRetryable_of_isCause {c : Error} (h : c.isCause = true) :
    c.isRetryable = !c.isPermanent := by
  cases c with
  | wrapped | aggregate => cases h
  | _ => rfl

/-- An error is retryable when none of its causes is permanent. -/
theorem isRetryable_iff_causes (e : Error) :
    e.isRetryable = true ↔ ∀ c ∈ e.causes, c.isPermanent = false := by
  rw [e.isRetryable_iff]
  refine forall₂_congr fun c hc => ?_
  rw [isRetryable_of_isCause (isCause_of_mem_causes hc), Bool.not_eq_true']

/-! ## Missing objects -/

/-- The way into an error ends at a cause: it goes through contexts, and through
collections of a single failure. -/
inductive LeadsTo : Error → Error → Prop where
  | here {c : Error} (h : c.isCause = true) : LeadsTo c c
  | wrapped {message : String} {source c : Error} (h : LeadsTo source c) :
    LeadsTo (.wrapped message source) c
  | alone {only c : Error} (h : LeadsTo only c) : LeadsTo (.aggregate only []) c

/-- The error is that an object does not exist, or how the API server says so. -/
inductive SaysMissing : Error → Prop where
  | notFound (kind name : String) : SaysMissing (.notFound kind name)
  | api {status : ApiStatus} (h : status.code = 404) : SaysMissing (.api status)

/-- Where the way into an error ends, there is its only cause. -/
theorem LeadsTo.causes_eq {e c : Error} (h : e.LeadsTo c) : e.causes = [c] := by
  induction h with
  | here h => exact causes_of_isCause h
  | wrapped _ ih => exact ih
  | alone _ ih => rw [causes, ih, allCauses, List.append_nil]

theorem SaysMissing.isPermanent {c : Error} (h : c.SaysMissing) : c.isPermanent = false := by
  cases h <;> rfl

theorem exists_of_isNotFound : ∀ {e : Error}, e.isNotFound = true →
    ∃ c, e.LeadsTo c ∧ c.SaysMissing
  | .notFound kind name, _ => ⟨_, .here rfl, .notFound kind name⟩
  | .api _, h => ⟨_, .here rfl, .api (beq_iff_eq.mp h)⟩
  | .wrapped _ source, h =>
    let ⟨c, hleads, hmissing⟩ := exists_of_isNotFound (e := source) h
    ⟨c, .wrapped hleads, hmissing⟩
  | .aggregate only [], h =>
    let ⟨c, hleads, hmissing⟩ := exists_of_isNotFound (e := only) h
    ⟨c, .alone hleads, hmissing⟩

theorem LeadsTo.isNotFound {e c : Error} (h : e.LeadsTo c) (hmissing : c.SaysMissing) :
    e.isNotFound = true := by
  induction h with
  | here _ =>
    cases hmissing with
    | notFound => rfl
    | api hcode => exact beq_iff_eq.mpr hcode
  | wrapped _ ih => exact ih hmissing
  | alone _ ih => exact ih hmissing

/-- An error says that an object is missing when that is what its way leads to. -/
theorem isNotFound_iff (e : Error) :
    e.isNotFound = true ↔ ∃ c, e.LeadsTo c ∧ c.SaysMissing :=
  ⟨exists_of_isNotFound, fun ⟨_, hleads, hmissing⟩ => hleads.isNotFound hmissing⟩

/-- What is missing may be there the next time. -/
theorem isRetryable_of_isNotFound {e : Error} (h : e.isNotFound = true) :
    e.isRetryable = true := by
  obtain ⟨c, hleads, hmissing⟩ := e.isNotFound_iff.mp h
  rw [isRetryable_iff_causes, hleads.causes_eq]
  exact List.forall_mem_singleton.mpr hmissing.isPermanent

/-! ## Both -/

/-- The two classifications of an error are up to its causes, whatever contexts
and collections it was put in: all of them for whether to try again, and for
whether an object is missing the one that its way leads to, if there is one.
One more context, or a collection of it alone, changes neither. -/
theorem classified_by_causes (e : Error) :
    (e.isRetryable = true ↔ ∀ c ∈ e.causes, c.isPermanent = false) ∧
    (e.isNotFound = true ↔ ∃ c, e.LeadsTo c ∧ c.SaysMissing) ∧
    (∀ message, (e.wrap message).isRetryable = e.isRetryable ∧
      (e.wrap message).isNotFound = e.isNotFound) ∧
    (∃ alone, ofList? [e] = some alone ∧ alone.isRetryable = e.isRetryable ∧
      alone.isNotFound = e.isNotFound) ∧
    (e.isNotFound = true → e.isRetryable = true) := by
  refine ⟨e.isRetryable_iff_causes, e.isNotFound_iff, fun message => ⟨?_, ?_⟩,
    ⟨.aggregate e [], rfl, ?_, ?_⟩, isRetryable_of_isNotFound⟩
  · rw [wrap, isRetryable]
  · rw [wrap, isNotFound]
  · rw [isRetryable, allRetryable, Bool.and_true]
  · rw [isNotFound]

end Roster.Error
