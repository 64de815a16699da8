/-
Roster.Proofs.Selection — whom a control plane takes when it has to give
up a member.

`exists_select`: a control plane that has members always finds one to
remove, and what it finds is among them (`mem_of_select`).
`mem_or_isMarked_of_select`: as long as outdated members are handed over
or marked ones exist, the one to remove is one of those.

The one delicate point is that the domain to take from is never empty: it
is the domain of a machine outside the eligible ones, or else the fullest
eligible one, which `countIn_histogram` ties to its machines.
-/
import Roster.Proofs.Keyed
import Roster.Scope

namespace Roster

/-! ## Least values -/

theorem mem_of_leastBy? {α : Type} {order : α → α → Ordering} {l : List α} {a : α}
    (h : leastBy? order l = some a) : a ∈ l := by
  induction l generalizing a with
  | nil => simp [leastBy?] at h
  | cons b rest ih =>
    rw [leastBy?] at h
    split at h
    · simp_all
    next c hc =>
      split at h
      · cases h
        exact List.mem_cons_of_mem _ (ih hc)
      · cases h
        exact List.mem_cons_self

theorem leastBy?_eq_none_iff {α : Type} {order : α → α → Ordering} {l : List α} :
    leastBy? order l = none ↔ l = [] := by
  cases l with
  | nil => simp [leastBy?]
  | cons a rest =>
    rw [leastBy?]
    split
    · simp
    · split <;> simp

/-- A least value is not above any other. -/
theorem isLE_of_leastBy? {α : Type} {order : α → α → Ordering} [Std.TransCmp order] {l : List α}
    {a : α} (h : leastBy? order l = some a) : ∀ b ∈ l, (order a b).isLE = true := by
  induction l generalizing a with
  | nil => simp
  | cons c rest ih =>
    rw [leastBy?] at h
    split at h
    next hnone =>
      obtain rfl := Option.some.inj h
      rw [leastBy?_eq_none_iff.mp hnone]
      simpa using Std.ReflCmp.isLE_rfl
    next b hb =>
      split at h
      next hlt =>
        obtain rfl := Option.some.inj h
        exact List.forall_mem_cons.mpr ⟨Ordering.isLE_of_eq_lt hlt, ih hb⟩
      next hge =>
        obtain rfl := Option.some.inj h
        have hle : (order c b).isLE = true :=
          Std.OrientedCmp.isGE_iff_isLE.mp (Ordering.isGE_iff_ne_lt.mpr hge)
        exact List.forall_mem_cons.mpr
          ⟨Std.ReflCmp.isLE_rfl, fun x hx => Std.TransCmp.isLE_trans hle (ih hb x hx)⟩

/-- A least value comes before its equals. -/
theorem append_of_leastBy? {α : Type} {order : α → α → Ordering} [Std.TransCmp order] {l : List α}
    {a : α} (h : leastBy? order l = some a) :
    ∃ front back, l = front ++ a :: back ∧ (∀ b ∈ front, order a b = .lt) ∧
      ∀ b ∈ back, (order a b).isLE = true := by
  induction l generalizing a with
  | nil => simp [leastBy?] at h
  | cons c rest ih =>
    have hall := isLE_of_leastBy? h
    rw [leastBy?] at h
    split at h
    next hnone =>
      obtain rfl := Option.some.inj h
      exact ⟨[], rest, rfl, by simp, fun b hb => hall b (List.mem_cons_of_mem _ hb)⟩
    next b hb =>
      split at h
      next hlt =>
        obtain rfl := Option.some.inj h
        obtain ⟨front, back, rfl, hfront, hback⟩ := ih hb
        exact ⟨c :: front, back, rfl, List.forall_mem_cons.mpr ⟨hlt, hfront⟩, hback⟩
      · obtain rfl := Option.some.inj h
        exact ⟨[], rest, rfl, by simp, fun b hb => hall b (List.mem_cons_of_mem _ hb)⟩

namespace Members

theorem mem_of_oldest? {s : Members} {m : Machine} (h : s.oldest? = some m) : m ∈ s.toList :=
  mem_of_leastBy? h

theorem exists_oldest? {s : Members} {m : Machine} (h : m ∈ s.toList) :
    ∃ x, s.oldest? = some x := by
  rw [← Option.isSome_iff_exists, ← Option.ne_none_iff_isSome]
  intro hnone
  rw [leastBy?_eq_none_iff.mp hnone] at h
  cases h

theorem mem_inDomain {s : Members} {domain : Option String} {m : Machine} :
    m ∈ (s.inDomain domain).toList ↔ m ∈ s.toList ∧ m.failureDomain = domain := by
  simp [inDomain]

/-! ## Counting by failure domain -/

theorem countIn_tally (counts : Dict Nat) (d e : String) :
    countIn (tally counts d) e = countIn counts e + if e = d then 1 else 0 := by
  rw [countIn, tally, Table.lookup_put]
  split
  · subst e; rfl
  · rfl

theorem countIn_foldl_tally (l : List String) (counts : Dict Nat) (d : String) :
    countIn (l.foldl tally counts) d = countIn counts d + l.count d := by
  induction l generalizing counts with
  | nil => simp
  | cons a rest ih =>
    rw [List.foldl_cons, ih, countIn_tally, List.count_cons]
    simp only [beq_iff_eq, eq_comm (a := d)]
    omega

/-- The histogram counts the members of a domain. -/
theorem countIn_histogram (s : Members) (d : String) :
    countIn s.histogram d = (s.inDomain (some d)).size := by
  have hempty : countIn .empty d = 0 := rfl
  rw [histogram, countIn_foldl_tally, hempty, Nat.zero_add, inDomain, Keyed.size_filter]
  induction s.toList with
  | nil => rfl
  | cons m rest ih =>
    rw [List.countP_cons, ← ih]
    cases hd : m.failureDomain with
    | none => simp [List.filterMap_cons_none hd]
    | some e =>
      rw [List.filterMap_cons_some hd, List.count_cons]
      simp

/-- A domain holds members exactly when it counts some. -/
theorem countIn_histogram_pos_iff {s : Members} {d : String} :
    0 < countIn s.histogram d ↔ ∃ m ∈ s.toList, m.failureDomain = some d := by
  rw [countIn_histogram, Keyed.size, List.length_pos_iff_exists_mem]
  simp only [mem_inDomain]

/-- How many members the best domain so far holds, none before there is one. -/
def held (counts : Dict Nat) : Option String → Nat
  | none => 0
  | some b => countIn counts b

theorem fuller_eq (counts : Dict Nat) (best : Option String) (d : String) :
    fuller counts best d = if held counts best < countIn counts d then some d else best := by
  cases best <;> rfl

/-- What a search finds holds as many members as all domains it came by. -/
theorem le_held_foldl_fuller (counts : Dict Nat) (candidates : List String)
    (best : Option String) :
    held counts best ≤ held counts (candidates.foldl (fuller counts) best) ∧
      ∀ e ∈ candidates,
        countIn counts e ≤ held counts (candidates.foldl (fuller counts) best) := by
  induction candidates generalizing best with
  | nil => simp
  | cons d rest ih =>
    rw [List.foldl_cons]
    obtain ⟨hnext, hrest⟩ := ih (fuller counts best d)
    -- The best domain after `d` holds as many members as `d` and as the best before.
    have hstep : held counts best ≤ held counts (fuller counts best d) ∧
        countIn counts d ≤ held counts (fuller counts best d) := by
      rw [fuller_eq]
      split
      next hlt => exact ⟨Nat.le_of_lt hlt, Nat.le_refl _⟩
      next hge => exact ⟨Nat.le_refl _, Nat.le_of_not_lt hge⟩
    exact ⟨Nat.le_trans hstep.1 hnext,
      List.forall_mem_cons.mpr ⟨Nat.le_trans hstep.2 hnext, hrest⟩⟩

/-- No candidate holds more members than the fullest one. -/
theorem countIn_le_held_fullestDomain (s : Members) (candidates : List String) :
    ∀ e ∈ candidates,
      countIn s.histogram e ≤ held s.histogram (s.fullestDomain candidates) :=
  (le_held_foldl_fuller s.histogram candidates none).2

instance (counts : Dict Nat) : Std.TransCmp (emptierFirst counts) :=
  inferInstanceAs (Std.TransCmp (compareLex (compareOn (countIn counts)) compare))

/-- No candidate holds fewer members than the emptiest one. -/
theorem countIn_le_of_emptiestDomain {s : Members} {candidates : List String} {d : String}
    (h : s.emptiestDomain candidates = some d) :
    ∀ e ∈ candidates, countIn s.histogram d ≤ countIn s.histogram e := by
  intro e he
  have hle : (emptierFirst s.histogram d e).isLE = true := isLE_of_leastBy? h e he
  rcases Ordering.isLE_then_iff_or.mp hle with hlt | ⟨heq, -⟩
  · exact Nat.le_of_lt (Nat.compare_eq_lt.mp hlt)
  · exact Nat.le_of_eq (Nat.compare_eq_eq.mp heq)

end Members

namespace Scope

/-! ## The one to remove -/

/-- The domain to take from holds a machine, if there is any machine. -/
theorem exists_mem_crowdedDomain (s : Scope) {among : Members} {m : Machine}
    (hm : m ∈ among.toList) :
    ∃ x ∈ among.toList, x.failureDomain = s.crowdedDomain among := by
  unfold crowdedDomain
  split
  next x hx =>
    have hout : x ∈ (s.outside among).toList := Members.mem_of_oldest? hx
    exact ⟨x, (Keyed.mem_filter.mp hout).1, rfl⟩
  next hnone =>
    -- No machine is outside, so `m` sits in an eligible domain.
    have hwithin : m.isWithin s.domains = true := by
      by_cases hw : m.isWithin s.domains = true
      · exact hw
      · have hout : m ∈ (s.outside among).toList := by
          rw [outside, Keyed.mem_filter]
          exact ⟨hm, by simpa using hw⟩
        obtain ⟨x, hx⟩ := Members.exists_oldest? hout
        rw [hx] at hnone
        cases hnone
    obtain ⟨d, hd, hdom⟩ : ∃ d, m.failureDomain = some d ∧ d ∈ s.domains := by
      unfold Machine.isWithin at hwithin
      split at hwithin
      next d hd => exact ⟨d, hd, by simpa using hwithin⟩
      · cases hwithin
    have hpos : 0 < Members.countIn among.histogram d :=
      Members.countIn_histogram_pos_iff.mpr ⟨m, hm, hd⟩
    have hcount := Nat.lt_of_lt_of_le hpos (among.countIn_le_held_fullestDomain s.domains d hdom)
    cases hb : among.fullestDomain s.domains with
    | none =>
      rw [hb] at hcount
      cases hcount
    | some b =>
      rw [hb] at hcount
      exact Members.countIn_histogram_pos_iff.mp hcount

/-- Some machine is picked, if there is any. -/
theorem exists_pick (s : Scope) {among : Members} {m : Machine} (hm : m ∈ among.toList) :
    ∃ x, s.pick among = .ok x := by
  obtain ⟨x, hx, hdom⟩ := s.exists_mem_crowdedDomain hm
  obtain ⟨y, hy⟩ := Members.exists_oldest? (Members.mem_inDomain.mpr ⟨hx, hdom⟩)
  exact ⟨y, by rw [pick, hy]⟩

theorem mem_of_pick {s : Scope} {among : Members} {m : Machine} (h : s.pick among = .ok m) :
    m ∈ among.toList := by
  unfold pick at h
  split at h
  next x hx =>
    cases h
    exact (Members.mem_inDomain.mp (Members.mem_of_oldest? hx)).1
  · cases h

/-- A machine is picked from an eligible domain only when no eligible domain holds
more machines. -/
theorem countIn_le_of_pick {s : Scope} {among : Members} {m : Machine} {d : String}
    (h : s.pick among = .ok m) (hm : m.failureDomain = some d) (hd : d ∈ s.domains) :
    ∀ e ∈ s.domains, Members.countIn among.histogram e ≤ Members.countIn among.histogram d := by
  have hcrowded : s.crowdedDomain among = some d := by
    unfold pick at h
    split at h
    next x hx =>
      cases h
      exact ((Members.mem_inDomain.mp (Members.mem_of_oldest? hx)).2).symm.trans hm
    · cases h
  unfold crowdedDomain at hcrowded
  split at hcrowded
  next x hx =>
    have hout := (Keyed.mem_filter.mp (Members.mem_of_oldest? hx)).2
    simp [Machine.isWithin, hcrowded, hd] at hout
  · have hle := among.countIn_le_held_fullestDomain s.domains
    rw [hcrowded] at hle
    exact hle

theorem mem_marked {among : Members} {m : Machine} :
    m ∈ (marked among).toList ↔ m ∈ among.toList ∧ m.isMarked = true := by
  simp [marked]

variable {s : Scope} {outdated : Members} {m : Machine}

/-- The machines to choose from are members. -/
theorem mem_of_candidates (hout : ∀ x ∈ outdated.toList, x ∈ s.members.toList)
    (h : m ∈ (s.candidates outdated).toList) : m ∈ s.members.toList := by
  unfold candidates at h
  split at h
  · exact hout m (mem_marked.mp h).1
  · split at h
    · exact (mem_marked.mp h).1
    · split at h
      · exact hout m h
      · exact h

theorem exists_mem_candidates (hm : m ∈ s.members.toList) :
    ∃ x, x ∈ (s.candidates outdated).toList := by
  unfold candidates
  simp only [Bool.not_eq_true']
  split
  next h => exact Keyed.isEmpty_eq_false_iff.mp h
  · split
    next h => exact Keyed.isEmpty_eq_false_iff.mp h
    · split
      next h => exact Keyed.isEmpty_eq_false_iff.mp h
      · exact ⟨m, hm⟩

/-- When no machine should go, all members are chosen from. -/
theorem candidates_eq_members (hnone : outdated.isEmpty = true)
    (hunmarked : ∀ x ∈ s.members.toList, x.isMarked = false) :
    s.candidates outdated = s.members := by
  have hnobody {among : Members} (h : ∀ x ∈ among.toList, x.isMarked = false) :
      (marked among).isEmpty = true := by
    rw [← Bool.not_eq_false, Keyed.isEmpty_eq_false_iff]
    rintro ⟨x, hx⟩
    obtain ⟨hmem, hmarked⟩ := mem_marked.mp hx
    rw [h x hmem] at hmarked
    cases hmarked
  have hempty : ∀ x ∈ outdated.toList, x.isMarked = false := by
    rw [List.isEmpty_iff.mp hnone]
    simp
  simp [candidates, hnone, hnobody hempty, hnobody hunmarked]

/-- As long as there are machines that should go, only those are chosen from. -/
theorem mem_or_isMarked_of_candidates
    (hwanted : ∃ x, x ∈ outdated.toList ∨ x ∈ s.members.toList ∧ x.isMarked = true)
    (h : m ∈ (s.candidates outdated).toList) : m ∈ outdated.toList ∨ m.isMarked = true := by
  unfold candidates at h
  simp only [Bool.not_eq_true'] at h
  split at h
  · exact .inr (mem_marked.mp h).2
  · split at h
    · exact .inr (mem_marked.mp h).2
    next hmarked =>
      split at h
      · exact .inl h
      next hnone =>
        obtain ⟨x, hx | hx⟩ := hwanted
        · exact absurd (Keyed.isEmpty_eq_false_iff.mpr ⟨x, hx⟩) hnone
        · exact absurd (Keyed.isEmpty_eq_false_iff.mpr ⟨x, mem_marked.mpr hx⟩) hmarked

/-- A control plane with members finds one to remove. -/
theorem exists_select (outdated : Members) (hm : m ∈ s.members.toList) :
    ∃ x, s.select outdated = .ok x := by
  obtain ⟨x, hx⟩ : ∃ x, x ∈ (s.candidates outdated).toList := exists_mem_candidates hm
  exact s.exists_pick hx

/-- The one to remove is a member. -/
theorem mem_of_select (hout : ∀ x ∈ outdated.toList, x ∈ s.members.toList)
    (h : s.select outdated = .ok m) : m ∈ s.members.toList :=
  mem_of_candidates hout (mem_of_pick h)

/-- As long as there are machines that should go, the one to remove is one of
those. -/
theorem mem_or_isMarked_of_select
    (hwanted : ∃ x, x ∈ outdated.toList ∨ x ∈ s.members.toList ∧ x.isMarked = true)
    (h : s.select outdated = .ok m) : m ∈ outdated.toList ∨ m.isMarked = true :=
  mem_or_isMarked_of_candidates hwanted (mem_of_pick h)

end Scope

end Roster
