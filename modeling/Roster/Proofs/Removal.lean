/-
Roster.Proofs.Removal — which member a control plane gives up, exactly.

`select_eq_iff`: the one to remove is told by what is true of it.  It
comes from the first of four sets that holds a machine (`Scope.pool`), and
there it is the oldest machine outside the eligible domains or else, when
all are inside, the oldest of the fullest domain (`Scope.IsPick`).  There
is one such machine at most, so it is enough that whatever is selected is
one, and that something is selected whenever there is a machine at all.

Two ties are broken by the order of an enumeration.  Members are listed by
identity, so of equally old ones the first identity is taken; domains are
listed by id, so of equally full ones the least id is.
-/
import Roster.Proofs.Domains

namespace Roster

/-! ## The oldest member -/

instance : Std.TransOrd Instant :=
  inferInstanceAs (Std.TransCmp (compareLex (compareOn Instant.seconds) (compareOn Instant.nanos)))

instance : Std.TransCmp Members.olderFirst :=
  inferInstanceAs (Std.TransCmp (compareLex
    (compareOn fun m : Machine => m.metadata.creationTimestamp) (compareOn Machine.name)))

/-- Earlier creation first, no creation time before any, then by name, then by
identity. -/
def Machine.seniorFirst (a b : Machine) : Ordering :=
  (compare a.metadata.creationTimestamp b.metadata.creationTimestamp).then
    ((compare a.name b.name).then (compare a.identity b.identity))

instance : Std.TransCmp Machine.seniorFirst :=
  inferInstanceAs (Std.TransCmp (compareLex
    (compareOn fun m : Machine => m.metadata.creationTimestamp)
    (compareLex (compareOn Machine.name) (compareOn Machine.identity))))

theorem Machine.seniorFirst_eq (a b : Machine) :
    a.seniorFirst b = (Members.olderFirst a b).then (compare a.identity b.identity) :=
  (Ordering.then_assoc _ _ _).symm

namespace Members

variable {s t : Members} {m x : Machine}

/-- A member that has no senior among the members. -/
def IsOldest (s : Members) (m : Machine) : Prop :=
  m ∈ s.toList ∧ ∀ x ∈ s.toList, (m.seniorFirst x).isLE = true

theorem IsOldest.unique (hm : s.IsOldest m) (hx : s.IsOldest x) : m = x := by
  have heq : m.seniorFirst x = .eq := Std.OrientedCmp.isLE_antisymm (hm.2 x hx.1) (hx.2 m hm.1)
  rw [Machine.seniorFirst_eq, Ordering.then_eq_eq] at heq
  exact s.eq_of_key_eq hm.1 hx.1 (Std.LawfulEqOrd.eq_of_compare heq.2)

/-- The oldest member is the oldest of every part it is in. -/
theorem IsOldest.of_subset (h : s.IsOldest m) (hm : m ∈ t.toList) (hsub : t.toList ⊆ s.toList) :
    t.IsOldest m :=
  ⟨hm, fun x hx => h.2 x (hsub hx)⟩

theorem isOldest_of_oldest? (h : s.oldest? = some m) : s.IsOldest m := by
  obtain ⟨front, back, heq, hfront, hback⟩ := append_of_leastBy? h
  have hordered := s.ordered
  rw [heq] at hordered
  obtain ⟨hlater, -⟩ := List.pairwise_cons.mp (List.pairwise_append.mp hordered).2.1
  refine ⟨mem_of_oldest? h, ?_⟩
  rw [heq, List.forall_mem_append, List.forall_mem_cons]
  refine ⟨fun x hx => ?_, Std.ReflCmp.isLE_rfl, fun x hx => ?_⟩
  · rw [Machine.seniorFirst_eq, hfront x hx]
    rfl
  · -- Of members of the same age the first identity is listed first.
    rw [Machine.seniorFirst_eq, Ordering.isLE_then_iff_or]
    rcases Ordering.isLE_iff_eq_lt_or_eq_eq.mp (hback x hx) with hlt | hsame
    · exact .inl hlt
    · exact .inr ⟨hsame, Ordering.isLE_of_eq_lt (hlater x hx)⟩

/-- The search for the oldest member finds it. -/
theorem oldest?_eq_some_iff : s.oldest? = some m ↔ s.IsOldest m := by
  refine ⟨isOldest_of_oldest?, fun h => ?_⟩
  obtain ⟨x, hx⟩ := exists_oldest? h.1
  rw [hx, (isOldest_of_oldest? hx).unique h]

end Members

/-! ## The fullest eligible domain -/

/-- Domains are listed by id. -/
theorem Cluster.domains_ascending (c : Cluster) : c.domains.Pairwise (· < ·) := by
  unfold Cluster.domains
  split
  next status _ =>
    rw [List.pairwise_map]
    refine (status.failureDomains.ordered.filter _).imp fun h => ?_
    exact compareOfLessAndEq_eq_lt.mp h
  · exact .nil

namespace Scope

variable {s : Scope} {among outdated : Members} {m x : Machine} {d e : String}

/-- The eligible domain that holds the most machines, of several the one with the
least id. -/
def IsCrowded (s : Scope) (among : Members) (d : String) : Prop :=
  d ∈ s.domains ∧ ∀ e ∈ s.domains,
    among.population e < among.population d ∨ among.population e = among.population d ∧ d ≤ e

theorem IsCrowded.unique (hd : s.IsCrowded among d) (he : s.IsCrowded among e) : d = e :=
  Members.eq_of_rank_le (hd.2 e he.1) (he.2 d hd.1)

/-- The first of the fullest domains has the least id of them. -/
theorem isCrowded_of_isFullest (h : among.IsFullest s.domains d) : s.IsCrowded among d := by
  have hmem := h.mem
  have hordered : s.domains.Pairwise (· < ·) := s.cluster.domains_ascending
  obtain ⟨front, back, heq, -, hfront, hback⟩ := h
  refine ⟨hmem, ?_⟩
  rw [heq] at hordered ⊢
  obtain ⟨hlater, -⟩ := List.pairwise_cons.mp (List.pairwise_append.mp hordered).2.1
  rw [List.forall_mem_append, List.forall_mem_cons]
  refine ⟨fun e he => .inl (hfront e he), .inr ⟨rfl, String.le_refl d⟩, fun e he => ?_⟩
  rcases Nat.lt_or_eq_of_le (hback e he) with hlt | hsame
  · exact .inl hlt
  · exact .inr ⟨hsame, Std.le_of_lt (hlater e he)⟩

/-! ## The one to pick -/

/-- The oldest machine outside the eligible domains or, when all machines are
inside, the oldest one of the fullest domain. -/
def IsPick (s : Scope) (among : Members) (m : Machine) : Prop :=
  (s.outside among).IsOldest m ∨
    (s.outside among).isEmpty = true ∧
      ∃ d, s.IsCrowded among d ∧ (among.inDomain (some d)).IsOldest m

theorem mem_outside : m ∈ (s.outside among).toList ↔
    m ∈ among.toList ∧ ∀ d ∈ m.failureDomain, d ∉ s.domains := by
  rw [outside, Keyed.mem_filter, Machine.isWithin]
  cases m.failureDomain <;> simp

theorem IsPick.mem (h : s.IsPick among m) : m ∈ among.toList := by
  rcases h with h | ⟨-, d, -, h⟩
  · exact (mem_outside.mp h.1).1
  · exact (Members.mem_inDomain.mp h.1).1

theorem IsPick.unique (hm : s.IsPick among m) (hx : s.IsPick among x) : m = x := by
  have hnobody {y : Machine} (hempty : (s.outside among).isEmpty = true)
      (hy : (s.outside among).IsOldest y) : False := by
    rw [Keyed.isEmpty_eq_false_iff.mpr ⟨y, hy.1⟩] at hempty
    cases hempty
  rcases hm with hm | ⟨hempty, d, hd, hm⟩
  · rcases hx with hx | ⟨hempty, -⟩
    · exact hm.unique hx
    · exact (hnobody hempty hm).elim
  · rcases hx with hx | ⟨-, e, he, hx⟩
    · exact (hnobody hempty hx).elim
    · obtain rfl := hd.unique he
      exact hm.unique hx

/-- The oldest machine outside is the oldest one of its own domain, which is
outside as a whole. -/
theorem isOldest_inDomain_of_outside (h : (s.outside among).IsOldest m) :
    (among.inDomain m.failureDomain).IsOldest m := by
  obtain ⟨hm, hnot⟩ := mem_outside.mp h.1
  refine h.of_subset (Members.mem_inDomain.mpr ⟨hm, rfl⟩) fun x hx => ?_
  obtain ⟨hx, hsame⟩ := Members.mem_inDomain.mp hx
  exact mem_outside.mpr ⟨hx, hsame ▸ hnot⟩

theorem isPick_of_pick (h : s.pick among = .ok m) : s.IsPick among m := by
  unfold pick at h
  split at h
  next m' hfound =>
    cases h
    have hm := Members.oldest?_eq_some_iff.mp hfound
    unfold crowdedDomain at hm
    split at hm
    next x hx =>
      have hout := Members.oldest?_eq_some_iff.mp hx
      rw [hm.unique (isOldest_inDomain_of_outside hout)]
      exact .inl hout
    next hnone =>
      have hempty : (s.outside among).isEmpty = true :=
        List.isEmpty_iff.mpr (leastBy?_eq_none_iff.mp hnone)
      obtain ⟨hmem, hdomain⟩ := Members.mem_inDomain.mp hm.1
      cases hfull : among.fullestDomain s.domains with
      | none =>
        -- A machine without a domain would be outside.
        have hout : m ∈ (s.outside among).toList :=
          mem_outside.mpr ⟨hmem, by simp [hdomain, hfull]⟩
        rw [List.isEmpty_iff.mp hempty] at hout
        cases hout
      | some d =>
        rw [hfull] at hm
        exact .inr ⟨hempty, d,
          isCrowded_of_isFullest (Members.isFullest_of_fullestDomain hfull), hm⟩
  · cases h

theorem pick_eq_ok_iff : s.pick among = .ok m ↔ s.IsPick among m := by
  refine ⟨isPick_of_pick, fun h => ?_⟩
  obtain ⟨x, hx⟩ := s.exists_pick h.mem
  rw [hx, (isPick_of_pick hx).unique h]

/-- Nothing is picked from nothing only. -/
theorem pick_eq_error_iff {error : Error} :
    s.pick among = .error error ↔
      error = .invariant "scale-down" "failed to pick control plane Machine to mark" ∧
        among.isEmpty = true := by
  cases hempty : among.isEmpty with
  | false =>
    obtain ⟨m, hm⟩ := Keyed.isEmpty_eq_false_iff.mp hempty
    obtain ⟨x, hx⟩ := s.exists_pick hm
    simp [hx]
  | true =>
    obtain rfl := Keyed.eq_empty_of_isEmpty hempty
    have hnobody : (Members.inDomain .empty (s.crowdedDomain .empty)).oldest? = none := rfl
    rw [pick, hnobody]
    simp [eq_comm]

/-! ## The one to remove -/

/-- The first set that holds a machine: the outdated ones that are marked, the
marked members, the outdated ones, the members. -/
def pool (s : Scope) (outdated : Members) : Members :=
  ([marked outdated, marked s.members, outdated, s.members].find? fun t => !t.isEmpty).getD .empty

theorem candidates_eq_pool (s : Scope) (outdated : Members) :
    s.candidates outdated = s.pool outdated := by
  have hcons (t : Members) (l : List Members) :
      ((t :: l).find? fun t => !t.isEmpty).getD .empty =
        if !t.isEmpty then t else (l.find? fun t => !t.isEmpty).getD .empty := by
    cases hempty : t.isEmpty <;> simp [hempty]
  have hlast : ([s.members].find? fun t => !t.isEmpty).getD .empty = s.members := by
    rw [hcons]
    split
    · rfl
    next hempty => exact (Keyed.eq_empty_of_isEmpty (by simpa using hempty)).symm
  rw [pool, hcons, hcons, hcons, hlast, candidates]

theorem pool_isEmpty_iff :
    (s.pool outdated).isEmpty = true ↔ outdated.isEmpty = true ∧ s.members.isEmpty = true := by
  unfold pool
  cases hfound : [marked outdated, marked s.members, outdated, s.members].find?
      fun t => !t.isEmpty with
  | none =>
    have hall := List.find?_eq_none.mp hfound
    have hout : outdated.isEmpty = true := by simpa using hall outdated (by simp)
    have hmembers : s.members.isEmpty = true := by simpa using hall s.members (by simp)
    exact ⟨fun _ => ⟨hout, hmembers⟩, fun _ => rfl⟩
  | some t =>
    have hholds : t.isEmpty = false := by simpa using List.find?_some hfound
    rw [Option.getD_some, hholds]
    refine ⟨fun h => absurd h Bool.false_ne_true, fun ⟨hout, hmembers⟩ => ?_⟩
    -- Without outdated ones and members, all four sets are empty.
    have hmem := List.mem_of_find?_eq_some hfound
    rw [Keyed.eq_empty_of_isEmpty hout, Keyed.eq_empty_of_isEmpty hmembers] at hmem
    have hempty : t = .empty := by
      have hmarked : marked .empty = .empty := rfl
      simpa [hmarked] using hmem
    rw [hempty] at hholds
    cases hholds

/-- The one to remove is picked from the first set that holds a machine, and
nothing else is; there is none only when no set holds a machine. -/
theorem select_eq_iff (s : Scope) (outdated : Members) :
    (∀ error, s.select outdated = .error error ↔
      error = .invariant "scale-down" "failed to pick control plane Machine to mark" ∧
        outdated.isEmpty = true ∧ s.members.isEmpty = true) ∧
    ∀ m, s.select outdated = .ok m ↔
      m ∈ (s.pool outdated).toList ∧ s.IsPick (s.pool outdated) m := by
  unfold select
  rw [candidates_eq_pool]
  refine ⟨fun error => ?_, fun m => ?_⟩
  · rw [pick_eq_error_iff, pool_isEmpty_iff]
  · rw [pick_eq_ok_iff]
    exact ⟨fun h => ⟨h.mem, h⟩, And.right⟩

end Scope

end Roster
