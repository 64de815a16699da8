/-
Roster.Proofs.Domains — how members are spread over failure domains, and
what is fullest and emptiest among candidates.

The number of members in a domain (`Members.population`) is what the
domain's own members come to; the histogram, which is counted member by
member, lists exactly the populated domains with it
(`lookup_histogram_iff`), and with the members without a domain it adds
up to all members (`sum_histogram`).

Which candidate a search finds is told by what is true of that candidate:
`IsFullest` names a first one of several, `IsEmptiest` breaks ties by id.
There is one such candidate at most, so a search that finds such a
candidate finds no other.
-/
import Roster.Proofs.Selection
import Mathlib.Algebra.GroupWithZero.Nat

namespace Roster

/-! ## Sums of tables -/

namespace Table

variable {κ : Type} [Ord κ] [Std.TransOrd κ] [Std.LawfulEqOrd κ]

/-- A number that is kept under a key is part of the sum. -/
theorem sum_values_erase (t : Table κ Nat) (k : κ) :
    t.values.sum = (t.lookup k).getD 0 + (values (Keyed.erase t k)).sum := by
  cases h : t.lookup k with
  | none =>
    have hk : t.contains k = false := by
      rw [Keyed.contains_eq_false_iff]
      rintro ⟨k', n⟩ hmem rfl
      rw [lookup_eq_some_iff.mpr hmem] at h
      cases h
    rw [Keyed.erase_eq_self hk]
    exact (Nat.zero_add _).symm
  | some n =>
    have hperm := Keyed.perm_erase (lookup_eq_some_iff.mp h)
    exact (hperm.map Prod.snd).sum_nat

/-- What is put under a key takes the place of what was there in the sum. -/
theorem sum_values_put [DecidableEq κ] (t : Table κ Nat) (k : κ) (n : Nat) :
    (t.put k n).values.sum + (t.lookup k).getD 0 = t.values.sum + n := by
  have hafter := sum_values_erase (t.put k n) k
  have hbefore := sum_values_erase t k
  have hrest : Keyed.erase (t.put k n) k = Keyed.erase t k := Keyed.erase_insert_self
  rw [hrest, lookup_put, if_pos rfl, Option.getD_some] at hafter
  omega

end Table

namespace Members

variable {counts : Dict Nat} {s : Members} {candidates : List String} {d e : String}

/-- The number of members in a failure domain. -/
def population (s : Members) (d : String) : Nat := (s.inDomain (some d)).size

/-! ## The histogram -/

/-- Only what was counted is listed. -/
theorem pos_of_lookup_foldl_tally {l : List String} {k : Nat}
    (hcounts : ∀ d k, counts.lookup d = some k → 0 < k)
    (h : (l.foldl tally counts).lookup d = some k) : 0 < k := by
  induction l generalizing counts with
  | nil => exact hcounts d k h
  | cons a rest ih =>
    refine ih (fun e n hn => ?_) h
    rw [tally, Table.lookup_put] at hn
    split at hn
    · cases hn
      exact Nat.succ_pos _
    · exact hcounts e n hn

/-- The histogram lists the domains that hold members, with their number. -/
theorem lookup_histogram_iff {k : Nat} :
    s.histogram.lookup d = some k ↔ 0 < k ∧ s.population d = k := by
  have hcount : countIn s.histogram d = s.population d := countIn_histogram s d
  constructor
  · intro h
    have hempty : ∀ e n, Table.lookup (.empty : Dict Nat) e = some n → 0 < n := by
      intro e n hn
      cases Table.lookup_eq_some_iff.mp hn
    refine ⟨pos_of_lookup_foldl_tally hempty h, ?_⟩
    rw [← hcount, countIn, h, Option.getD_some]
  · rintro ⟨hpos, rfl⟩
    rw [← hcount] at hpos ⊢
    unfold countIn at hpos ⊢
    cases hd : s.histogram.lookup d with
    | none => simp [hd] at hpos
    | some n => rfl

/-- Counting a domain adds one to the sum. -/
theorem sum_tally (counts : Dict Nat) (d : String) :
    (tally counts d).values.sum = counts.values.sum + 1 := by
  have hput := counts.sum_values_put d ((counts.lookup d).getD 0 + 1)
  rw [tally]
  omega

theorem sum_foldl_tally (l : List String) (counts : Dict Nat) :
    (l.foldl tally counts).values.sum = counts.values.sum + l.length := by
  induction l generalizing counts with
  | nil => rfl
  | cons d rest ih =>
    rw [List.foldl_cons, ih, sum_tally, List.length_cons]
    omega

/-- Every member is counted in its domain, or has none. -/
theorem sum_histogram (s : Members) :
    s.histogram.values.sum + (s.inDomain none).size = s.size := by
  have hplaced : s.histogram.values.sum =
      s.toList.countP fun m => m.failureDomain.isSome := by
    rw [histogram, sum_foldl_tally, List.length_filterMap_eq_countP]
    exact Nat.zero_add _
  have hunplaced : (s.inDomain none).size =
      s.toList.countP fun m => decide ¬m.failureDomain.isSome = true := by
    rw [inDomain, Keyed.size_filter]
    congr
    funext m
    cases m.failureDomain <;> rfl
  rw [hplaced, hunplaced, Keyed.size]
  exact (List.length_eq_countP_add_countP _).symm

/-! ## The fullest candidate -/

/-- A candidate that holds members: no candidate holds more, and none before it
holds as many. -/
def IsFullest (s : Members) (candidates : List String) (d : String) : Prop :=
  ∃ front back, candidates = front ++ d :: back ∧ 0 < s.population d ∧
    (∀ e ∈ front, s.population e < s.population d) ∧
    ∀ e ∈ back, s.population e ≤ s.population d

/-- What a search ends with it started from, or came by, and then nothing
before held as many members. -/
theorem append_of_foldl_fuller {best : Option String}
    (h : candidates.foldl (fuller counts) best = some d) :
    best = some d ∨ ∃ front back, candidates = front ++ d :: back ∧
      held counts best < countIn counts d ∧ ∀ e ∈ front, countIn counts e < countIn counts d := by
  induction candidates generalizing best with
  | nil => exact .inl h
  | cons a rest ih =>
    rw [List.foldl_cons, fuller_eq] at h
    by_cases hlt : held counts best < countIn counts a
    · rw [if_pos hlt] at h
      rcases ih h with heq | ⟨front, back, rfl, hheld, hfront⟩
      · obtain rfl := Option.some.inj heq
        exact .inr ⟨[], rest, rfl, hlt, by simp⟩
      · exact .inr ⟨a :: front, back, rfl, Nat.lt_trans hlt hheld,
          List.forall_mem_cons.mpr ⟨hheld, hfront⟩⟩
    · rw [if_neg hlt] at h
      rcases ih h with heq | ⟨front, back, rfl, hheld, hfront⟩
      · exact .inl heq
      · exact .inr ⟨a :: front, back, rfl, hheld,
          List.forall_mem_cons.mpr ⟨Nat.lt_of_le_of_lt (Nat.le_of_not_lt hlt) hheld, hfront⟩⟩

theorem isFullest_of_fullestDomain (h : s.fullestDomain candidates = some d) :
    s.IsFullest candidates d := by
  have hall := s.countIn_le_held_fullestDomain candidates
  rw [h] at hall
  rcases append_of_foldl_fuller h with hnone | ⟨front, back, rfl, hpos, hfront⟩
  · cases hnone
  · simp only [held, countIn_histogram] at hall hpos hfront
    exact ⟨front, back, rfl, hpos, hfront, fun e he => hall e (by simp [he])⟩

theorem IsFullest.mem (h : s.IsFullest candidates d) : d ∈ candidates := by
  obtain ⟨front, back, rfl, -⟩ := h
  simp

theorem IsFullest.pos (h : s.IsFullest candidates d) : 0 < s.population d := by
  obtain ⟨front, back, -, hpos, -⟩ := h
  exact hpos

theorem IsFullest.population_le (h : s.IsFullest candidates d) :
    ∀ e ∈ candidates, s.population e ≤ s.population d := by
  obtain ⟨front, back, rfl, -, hfront, hback⟩ := h
  rw [List.forall_mem_append, List.forall_mem_cons]
  exact ⟨fun e he => Nat.le_of_lt (hfront e he), Nat.le_refl _, hback⟩

/-- The fullest candidate is the first one with its number of members. -/
theorem IsFullest.find?_eq (h : s.IsFullest candidates d) :
    candidates.find? (fun e => decide (s.population d ≤ s.population e)) = some d := by
  obtain ⟨front, back, rfl, -, hfront, -⟩ := h
  rw [List.find?_eq_some_iff_append]
  refine ⟨by simp, front, back, rfl, fun e he => ?_⟩
  simpa using hfront e he

theorem IsFullest.unique (hd : s.IsFullest candidates d) (he : s.IsFullest candidates e) :
    d = e := by
  have hsame : s.population d = s.population e :=
    Nat.le_antisymm (he.population_le d hd.mem) (hd.population_le e he.mem)
  have hfind := hd.find?_eq
  rw [hsame, he.find?_eq] at hfind
  exact (Option.some.inj hfind).symm

/-- A search finds nothing exactly when no candidate holds members. -/
theorem fullestDomain_eq_none_iff :
    s.fullestDomain candidates = none ↔ ∀ d ∈ candidates, s.population d = 0 := by
  constructor
  · intro h d hd
    have hle := s.countIn_le_held_fullestDomain candidates d hd
    rw [h, countIn_histogram] at hle
    exact Nat.le_zero.mp hle
  · intro h
    cases hd : s.fullestDomain candidates with
    | none => rfl
    | some d =>
      have hfull := isFullest_of_fullestDomain hd
      exact absurd (h d hfull.mem) (Nat.ne_of_gt hfull.pos)

/-- A search finds the fullest candidate. -/
theorem fullestDomain_eq_some_iff :
    s.fullestDomain candidates = some d ↔ s.IsFullest candidates d := by
  refine ⟨isFullest_of_fullestDomain, fun h => ?_⟩
  cases hfound : s.fullestDomain candidates with
  | none =>
    have hzero := fullestDomain_eq_none_iff.mp hfound d h.mem
    exact absurd hzero (Nat.ne_of_gt h.pos)
  | some e => rw [(isFullest_of_fullestDomain hfound).unique h]

/-! ## The emptiest candidate -/

/-- A candidate with the fewest members, of several the one with the least id. -/
def IsEmptiest (s : Members) (candidates : List String) (d : String) : Prop :=
  d ∈ candidates ∧ ∀ e ∈ candidates,
    s.population d < s.population e ∨ s.population d = s.population e ∧ d ≤ e

theorem isLE_emptierFirst_iff :
    (emptierFirst s.histogram d e).isLE = true ↔
      s.population d < s.population e ∨ s.population d = s.population e ∧ d ≤ e := by
  have hid : (compare d e).isLE = true ↔ d ≤ e :=
    isLE_compareOfLessAndEq String.le_antisymm Std.not_le String.le_total
  rw [emptierFirst, Ordering.isLE_then_iff_or, Nat.compare_eq_lt, Nat.compare_eq_eq, hid,
    countIn_histogram, countIn_histogram]
  rfl

/-- Of two ids that are ranked by number and then by id, each not behind the
other, there is one. -/
theorem eq_of_rank_le {m n : Nat} (h : m < n ∨ m = n ∧ d ≤ e) (h' : n < m ∨ n = m ∧ e ≤ d) :
    d = e := by
  have hle : d ≤ e ∧ e ≤ d := by
    rcases h with h | ⟨heq, hle⟩
    · omega
    · exact ⟨hle, by simpa [heq] using h'⟩
  exact String.le_antisymm hle.1 hle.2

theorem IsEmptiest.unique (hd : s.IsEmptiest candidates d) (he : s.IsEmptiest candidates e) :
    d = e :=
  eq_of_rank_le (hd.2 e he.1) (he.2 d hd.1)

/-- A search finds the emptiest candidate. -/
theorem emptiestDomain_eq_some_iff :
    s.emptiestDomain candidates = some d ↔ s.IsEmptiest candidates d := by
  have hsound {e} (h : s.emptiestDomain candidates = some e) : s.IsEmptiest candidates e :=
    ⟨mem_of_leastBy? h, fun x hx => isLE_emptierFirst_iff.mp (isLE_of_leastBy? h x hx)⟩
  refine ⟨hsound, fun h => ?_⟩
  cases hfound : s.emptiestDomain candidates with
  | none =>
    have hmem := h.1
    rw [leastBy?_eq_none_iff.mp hfound] at hmem
    cases hmem
  | some e => rw [(hsound hfound).unique h]

/-- How members are counted and what a search among candidates finds. -/
theorem counts_and_extremes (s : Members) (candidates : List String) :
    (∀ d k, s.histogram.lookup d = some k ↔ 0 < k ∧ (s.inDomain (some d)).size = k) ∧
    s.histogram.values.sum + (s.inDomain none).size = s.size ∧
    (s.fullestDomain candidates = none ↔ ∀ d ∈ candidates, s.population d = 0) ∧
    (∀ d, s.fullestDomain candidates = some d ↔ s.IsFullest candidates d) ∧
    (s.emptiestDomain candidates = none ↔ candidates = []) ∧
    (∀ d, s.emptiestDomain candidates = some d ↔ s.IsEmptiest candidates d) ∧
    (s.fullestDomain candidates).toList ⊆ candidates ∧
    (s.emptiestDomain candidates).toList ⊆ candidates := by
  refine ⟨fun d k => lookup_histogram_iff, sum_histogram s, fullestDomain_eq_none_iff,
    fun d => fullestDomain_eq_some_iff, leastBy?_eq_none_iff,
    fun d => emptiestDomain_eq_some_iff, fun d hd => ?_, fun d hd => ?_⟩
  · exact (isFullest_of_fullestDomain (Option.mem_toList.mp hd)).mem
  · exact mem_of_leastBy? (Option.mem_toList.mp hd)

end Members

end Roster
