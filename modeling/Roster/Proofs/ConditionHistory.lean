/-
Roster.Proofs.ConditionHistory — what a list of conditions tells of all that
was set in it.

One setting changes the first entry of a type, or adds one at the end, and
nothing else (`find?_set`, `map_type_set`, `getElem?_set`).  Over a sequence
of settings (`Condition.setEach`) this makes the list grow by one entry for
every new type, in the order in which the types come up, and leaves every
other entry where it was.

The time of a condition is all that is kept of its past.  It is the time of
the first entry of the last stretch of equal statuses (`Condition.ClosesWith`)
in the history of its type: the entry that was there, if there was one, and
the settings after it.
-/
import Roster.Proofs.Conditions
import Mathlib.Data.List.Induction

namespace Roster

namespace Condition

variable {c old : Condition} {type : String} {cs calls : List Condition}

/-! ## One setting -/

/-- Setting a condition of a type that is there keeps all types in place; a new
type goes to the end. -/
theorem map_type_set (c : Condition) (cs : List Condition) :
    (set c cs).map Condition.type =
      cs.map Condition.type ++ [c.type].filter (· ∉ cs.map Condition.type) := by
  induction cs with
  | nil => simp [set]
  | cons old rest ih =>
    by_cases h : old.type = c.type
    · simp [set_cons_of_eq h, h]
    · have hne : c.type ≠ old.type := Ne.symm h
      rw [set_cons_of_ne h, List.map_cons, ih, List.map_cons, List.cons_append]
      simp [List.filter_cons, hne]

/-- Entries of other types, and entries behind the first of their type, are
not touched. -/
theorem getElem?_set {i : Nat} {e : Condition} (h : cs[i]? = some e)
    (huntouched : e.type ≠ c.type ∨ e.type ∈ (cs.take i).map Condition.type) :
    (set c cs)[i]? = some e := by
  induction cs generalizing i with
  | nil => simp at h
  | cons old rest ih =>
    cases i with
    | zero =>
      obtain rfl : old = e := by simpa using h
      have hne : old.type ≠ c.type := by simpa using huntouched
      rw [set_cons_of_ne hne]
      rfl
    | succ i =>
      rw [List.getElem?_cons_succ] at h
      by_cases hold : old.type = c.type
      · rw [set_cons_of_eq hold]
        exact h
      · rw [set_cons_of_ne hold]
        refine ih h ?_
        rcases huntouched with hother | hmem
        · exact .inl hother
        · rw [List.take_succ_cons, List.map_cons, List.mem_cons] at hmem
          rcases hmem with hfirst | hmem
          · exact .inl (hfirst ▸ hold)
          · exact .inr hmem

/-- Entries that are not of the type that is set stay as they are and in
order. -/
theorem filter_set {p : Condition → Bool} (h : ∀ e, e.type = c.type → p e = false) :
    (set c cs).filter p = cs.filter p := by
  induction cs with
  | nil => simp [set, h c rfl]
  | cons old rest ih =>
    by_cases hold : old.type = c.type
    · simp [set_cons_of_eq hold, h old hold, h (c.replacing old) (replacing_type c old)]
    · rw [set_cons_of_ne hold, List.filter_cons, List.filter_cons, ih]

/-! ## Settings one after the other -/

/-- Set every condition of a list in turn. -/
def setEach (calls cs : List Condition) : List Condition := calls.foldl (fun cs c => set c cs) cs

theorem setEach_concat (calls : List Condition) (c : Condition) (cs : List Condition) :
    setEach (calls ++ [c]) cs = set c (setEach calls cs) := by
  simp [setEach]

/-- The types stay in place, and every new one is added once, in the order of
its first setting. -/
theorem map_type_setEach (calls cs : List Condition) :
    (setEach calls cs).map Condition.type = cs.map Condition.type ++
      ((calls.map Condition.type).filter (· ∉ cs.map Condition.type)).eraseDups := by
  induction calls using List.reverseRecOn with
  | nil => simp [setEach]
  | append_singleton calls c ih =>
    rw [setEach_concat, map_type_set, ih, List.map_append, List.filter_append,
      List.eraseDups_append, List.append_assoc]
    congr 2
    -- From here on it is a matter of the types alone.
    generalize cs.map Condition.type = there
    rw [List.map_singleton]
    generalize calls.map Condition.type = earlier
    by_cases hthere : c.type ∈ there
    · simp [List.removeAll, hthere]
    · by_cases hearlier : c.type ∈ earlier <;>
        simp [List.removeAll, hthere, hearlier, List.eraseDups_cons]

/-- A list with one entry per type stays one. -/
theorem nodup_setEach (h : (cs.map Condition.type).Nodup) :
    ((setEach calls cs).map Condition.type).Nodup := by
  induction calls using List.reverseRecOn with
  | nil => exact h
  | append_singleton calls c ih =>
    rw [setEach_concat, map_type_set]
    refine List.nodup_append.mpr ⟨ih, (List.pairwise_singleton _ _).filter _, ?_⟩
    rintro type hold _ hnew rfl
    exact absurd hold (by simpa using (List.mem_filter.mp hnew).2)

theorem getElem?_setEach {i : Nat} {e : Condition} (h : cs[i]? = some e)
    (huntouched : e.type ∉ calls.map Condition.type ∨
      e.type ∈ (cs.take i).map Condition.type) :
    (setEach calls cs)[i]? = some e := by
  induction calls using List.reverseRecOn with
  | nil => exact h
  | append_singleton calls c ih =>
    rw [setEach_concat]
    rcases huntouched with hother | hmem
    · have hother : e.type ∉ calls.map Condition.type ∧ e.type ≠ c.type := by
        simpa [not_or] using hother
      exact getElem?_set (ih (.inl hother.1)) (.inl hother.2)
    · refine getElem?_set (ih (.inr hmem)) (.inr ?_)
      -- What was in front of the entry by type is in front of it still.
      rw [List.map_take, map_type_setEach, List.take_append, ← List.map_take]
      exact List.mem_append_left _ hmem

theorem filter_setEach {p : Condition → Bool}
    (h : ∀ c ∈ calls, ∀ e : Condition, e.type = c.type → p e = false) :
    (setEach calls cs).filter p = cs.filter p := by
  induction calls using List.reverseRecOn with
  | nil => rfl
  | append_singleton calls c ih =>
    rw [setEach_concat, filter_set (h c (by simp)), ih fun c hc => h c (by simp [hc])]

/-! ## The history of a type -/

/-- What was observed of a type: the entry that was there, if there was one, and
what was set after it, oldest first. -/
def history (type : String) (calls cs : List Condition) : List Condition :=
  (find? type cs).toList ++ calls.filter fun c => c.type == type

/-- A history closes with `found`: its last entry, with the time of the first
entry of the last stretch in which the status is the same throughout. -/
def ClosesWith (history : List Condition) (found : Condition) : Prop := ∃ before first run,
  history = before ++ first :: run ∧ (∀ c ∈ run, c.status = first.status) ∧
    (∀ c ∈ before.getLast?, c.status ≠ first.status) ∧
    found = { run.getLastD first with since := first.since }

theorem closesWith_singleton (c : Condition) : ClosesWith [c] c :=
  ⟨[], c, [], rfl, by simp, by simp, rfl⟩

/-- Another entry goes on with the last stretch, or begins one. -/
theorem ClosesWith.concat {past : List Condition} {found : Condition}
    (h : ClosesWith past found) (c : Condition) : ClosesWith (past ++ [c]) (c.replacing found) := by
  obtain ⟨before, first, run, rfl, hrun, hbefore, rfl⟩ := h
  have hlast : (before ++ first :: run).getLast? = some (run.getLastD first) := by
    rw [List.getLast?_append, List.getLast?_cons, Option.some_or,
      List.getLastD_eq_getLast?]
  -- The status of the last entry is that of the whole stretch.
  have hstatus : (run.getLastD first).status = first.status := by
    rcases List.eq_nil_or_concat run with rfl | ⟨front, last, rfl⟩
    · rfl
    · simpa using hrun last (by simp)
  by_cases hsame : first.status = c.status
  · refine ⟨before, first, run ++ [c], by simp, ?_, hbefore, ?_⟩
    · intro e he
      rcases List.mem_append.mp he with he | he
      · exact hrun e he
      · exact (List.mem_singleton.mp he) ▸ hsame.symm
    · rw [replacing, if_pos (hstatus.trans hsame)]
      simp
  · refine ⟨before ++ first :: run, c, [], rfl, by simp, ?_, ?_⟩
    · rw [hlast]
      rintro e ⟨⟩
      rw [hstatus]
      exact hsame
    · rw [replacing, if_neg fun h => hsame (hstatus.symm.trans h)]
      rfl

theorem history_concat_of_eq (h : c.type = type) (calls cs : List Condition) :
    history type (calls ++ [c]) cs = history type calls cs ++ [c] := by
  simp [history, h]

theorem history_concat_of_ne (h : c.type ≠ type) (calls cs : List Condition) :
    history type (calls ++ [c]) cs = history type calls cs := by
  simp [history, h]

/-- What is found of a type is what its history closes with; without a history
nothing is found. -/
theorem find?_setEach (type : String) (calls cs : List Condition) :
    (find? type (setEach calls cs) = none ∧ history type calls cs = []) ∨
      ∃ found, find? type (setEach calls cs) = some found ∧
        ClosesWith (history type calls cs) found := by
  induction calls using List.reverseRecOn with
  | nil =>
    cases hfind : find? type cs with
    | none => exact .inl ⟨hfind, by simp [history, hfind]⟩
    | some e =>
      refine .inr ⟨e, hfind, ?_⟩
      have hhistory : history type [] cs = [e] := by simp [history, hfind]
      rw [hhistory]
      exact closesWith_singleton e
  | append_singleton calls c ih =>
    rw [setEach_concat]
    by_cases hc : c.type = type
    · subst hc
      rw [find?_set, history_concat_of_eq rfl]
      refine .inr ⟨_, rfl, ?_⟩
      rcases ih with ⟨hfind, hhistory⟩ | ⟨found, hfind, hcloses⟩
      · rw [hfind, hhistory]
        exact closesWith_singleton c
      · rw [hfind]
        exact hcloses.concat c
    · rw [find?_set_of_ne hc, history_concat_of_ne hc]
      exact ih

/-! ## All that a sequence of settings does -/

/-- A sequence of settings leaves the entries of all other types as they are and
in order.  It keeps every type in its place and adds one entry for each new
type, in the order in which they are first set, so that a list with one entry
per type stays one; of several entries of a type only the first is changed.
What is found of a type that was set is the last condition that was set, with
the time at which the last stretch of its status began. -/
theorem settings_keep_history (calls cs : List Condition) :
    ((setEach calls cs).filter (·.type ∉ calls.map Condition.type) =
      cs.filter (·.type ∉ calls.map Condition.type)) ∧
    ((setEach calls cs).map Condition.type = cs.map Condition.type ++
      ((calls.map Condition.type).filter (· ∉ cs.map Condition.type)).eraseDups) ∧
    ((cs.map Condition.type).Nodup → ((setEach calls cs).map Condition.type).Nodup) ∧
    (∀ i e, cs[i]? = some e → e.type ∈ (cs.take i).map Condition.type →
      (setEach calls cs)[i]? = some e) ∧
    ∀ type ∈ calls.map Condition.type, ∃ found,
      find? type (setEach calls cs) = some found ∧
        ClosesWith (history type calls cs) found := by
  refine ⟨filter_setEach ?_, map_type_setEach calls cs, nodup_setEach, ?_, ?_⟩
  · intro c hc e he
    simp only [decide_not, Bool.not_eq_false', decide_eq_true_eq, he]
    exact List.mem_map_of_mem hc
  · exact fun i e hi he => getElem?_setEach hi (.inr he)
  · intro type htype
    obtain ⟨c, hc, rfl⟩ := List.mem_map.mp htype
    rcases find?_setEach c.type calls cs with ⟨-, hnone⟩ | hfound
    · -- The condition that was set is in its own history.
      have hmem : c ∈ history c.type calls cs := by simp [history, hc]
      rw [hnone] at hmem
      cases hmem
    · exact hfound

/-- A condition that fails, and is then said to fail for another reason, fails
since it first did; an older entry of its type further behind stays what it
was. -/
theorem settings_keep_history_outage :
    let ready : Condition := ⟨"Ready", .holds, none, none, none, none⟩
    let paused : Condition := .unknown ⟨1, 0⟩ "Paused" "Unset" ""
    let calls : List Condition := [.holding ⟨2, 0⟩ "Available",
      .failing ⟨3, 0⟩ "Ready" "Down" .error "", .failing ⟨4, 0⟩ "Ready" "Lost" .error ""]
    ([ready, paused].map Condition.type).Nodup ∧
      ((setEach calls [ready, paused]).map Condition.type).Nodup ∧
      [ready, paused, ready][2]? = some ready ∧
      ready.type ∈ ([ready, paused, ready].take 2).map Condition.type ∧
      (setEach calls [ready, paused, ready])[2]? = some ready ∧
      "Ready" ∈ calls.map Condition.type ∧
      ∃ found, find? "Ready" (setEach calls [ready, paused]) = some found ∧
        ClosesWith (history "Ready" calls [ready, paused]) found ∧ found.since = some ⟨3, 0⟩ := by
  intro ready paused calls
  obtain ⟨-, -, hnodup, -, hfound⟩ := settings_keep_history calls [ready, paused]
  obtain ⟨-, -, -, hkept, -⟩ := settings_keep_history calls [ready, paused, ready]
  have hunique : ([ready, paused].map Condition.type).Nodup := by decide
  have hbehind : ready.type ∈ ([ready, paused, ready].take 2).map Condition.type := by decide
  have hset : "Ready" ∈ calls.map Condition.type := by decide
  obtain ⟨found, hfind, hcloses⟩ := hfound "Ready" hset
  refine ⟨hunique, hnodup hunique, rfl, hbehind, hkept 2 ready rfl hbehind, hset, found, hfind,
    hcloses, ?_⟩
  have hsince : (find? "Ready" (setEach calls [ready, paused])).map Condition.since =
      some (some ⟨3, 0⟩) := by decide
  rw [hfind] at hsince
  exact Option.some.inj hsince

end Condition

end Roster
