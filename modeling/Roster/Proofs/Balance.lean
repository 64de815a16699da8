/-
Roster.Proofs.Balance — members stay spread over the failure domains.

A control plane that grows counts the members that are as specified, and
one that shrinks counts those it chooses from.  `Run.stays_balanced`: with
either step the members that are as specified stay even over the domains
that members may be placed in, so they are even after every pass if they
were at the start.

What makes the two counts agree is that a control plane shrinks by an
outdated member as long as there is one, which is not counted.  Otherwise
all members are as specified, and the fullest domain loses one
(`Scope.Changes.even`).
-/
import Roster.Proofs.Convergence
import Roster.Proofs.Listed

namespace Roster

/-! ## Even counts -/

/-- The counts of any two domains differ by one at most. -/
def EvenOver (domains : List String) (count : String → Nat) : Prop :=
  ∀ a ∈ domains, ∀ b ∈ domains, count a ≤ count b + 1

namespace EvenOver

variable {domains : List String} {count count' : String → Nat} {d : String}

theorem congr (h : EvenOver domains count) (hsame : ∀ e ∈ domains, count' e = count e) :
    EvenOver domains count' := by
  intro a ha b hb
  rw [hsame a ha, hsame b hb]
  exact h a ha b hb

/-- Counts stay even when the domain of the least count gets one more. -/
theorem add_least (h : EvenOver domains count) (hleast : ∀ e ∈ domains, count d ≤ count e)
    (hcount : ∀ e, count' e = count e + if d = e then 1 else 0) : EvenOver domains count' := by
  intro a ha b hb
  have hab := h a ha b hb
  have hdb := hleast b hb
  rw [hcount, hcount]
  split
  next hda =>
    subst hda
    omega
  · omega

/-- Counts stay even when the domain of the greatest count loses one. -/
theorem remove_most (h : EvenOver domains count) (hmost : ∀ e ∈ domains, count e ≤ count d)
    (hcount : ∀ e, count e = count' e + if d = e then 1 else 0) : EvenOver domains count' := by
  intro a ha b hb
  have hab := h a ha b hb
  have had := hmost a ha
  have hcount_a := hcount a
  have hcount_b := hcount b
  by_cases hdb : d = b
  · subst hdb
    rw [if_pos rfl] at hcount_b
    split at hcount_a
    next hda =>
      subst hda
      omega
    · omega
  · rw [if_neg hdb] at hcount_b
    omega

end EvenOver

/-! ## Counting members -/

namespace ControlPlane

variable {p : ControlPlane} {members : Members} {m : Machine} {d : String}

/-- The number of members in a domain that are as specified. -/
def currentIn (p : ControlPlane) (members : Members) (d : String) : Nat :=
  (Members.inDomain (members.filter p.isCurrent) (some d)).size

/-- Whether a machine is as specified, and in a domain. -/
def isCurrentIn (p : ControlPlane) (d : String) (m : Machine) : Bool :=
  m.failureDomain == some d && p.isCurrent m

theorem currentIn_eq_countP : p.currentIn members d = members.toList.countP (p.isCurrentIn d) := by
  rw [currentIn, Members.inDomain, Keyed.size_filter, Keyed.filter, List.countP_filter]
  rfl

theorem isCurrentIn_eq (hcurrent : p.isCurrent m = true) (hm : m.failureDomain = some d)
    (e : String) : p.isCurrentIn e m = (d == e) := by
  simp [isCurrentIn, hcurrent, hm]

theorem currentIn_insert (hnew : members.contains m.identity = false) :
    p.currentIn (members.insert m) d =
      p.currentIn members d + if p.isCurrentIn d m then 1 else 0 := by
  rw [currentIn_eq_countP, (Keyed.perm_insert hnew).countP_eq, List.countP_cons,
    ← currentIn_eq_countP]

theorem currentIn_erase (hm : m ∈ members.toList) :
    p.currentIn members d =
      p.currentIn (members.erase m.identity) d + if p.isCurrentIn d m then 1 else 0 := by
  rw [currentIn_eq_countP, (Keyed.perm_erase hm).countP_eq, List.countP_cons,
    ← currentIn_eq_countP]

end ControlPlane

/-! ## A step -/

/-- Nobody asked to delete the machine or to remove it first. -/
def Machine.isStaying (m : Machine) : Bool := !m.isDeleting && !m.isMarked

namespace Scope

variable {s : Scope} {draws : Draws} {m : Machine}

theorem even_insert (hnew : s.members.contains m.identity = false)
    (hcurrent : s.controlPlane.isCurrent m = true) (hdomain : m.failureDomain = s.nextDomain)
    (h : EvenOver s.domains (s.controlPlane.currentIn s.members)) :
    EvenOver s.domains (s.controlPlane.currentIn (s.members.insert m)) := by
  cases hnext : s.nextDomain with
  | none =>
    have hnone : s.domains = [] := leastBy?_eq_none_iff.mp hnext
    rw [hnone]
    simp [EvenOver]
  | some d =>
    refine h.add_least (d := d) (fun e he => ?_) fun e => ?_
    · have hleast := Members.countIn_le_of_emptiestDomain hnext e he
      rw [Members.countIn_histogram, Members.countIn_histogram] at hleast
      exact hleast
    · rw [ControlPlane.currentIn_insert hnew,
        ControlPlane.isCurrentIn_eq hcurrent (hdomain.trans hnext)]
      simp

/-- A member that is not counted in an eligible domain may leave. -/
theorem even_erase_of_uncounted (hm : m ∈ s.members.toList)
    (hnot : ∀ e ∈ s.domains, s.controlPlane.isCurrentIn e m = false)
    (h : EvenOver s.domains (s.controlPlane.currentIn s.members)) :
    EvenOver s.domains (s.controlPlane.currentIn (s.members.erase m.identity)) := by
  refine h.congr fun e he => ?_
  rw [ControlPlane.currentIn_erase hm, hnot e he]
  rfl

/-- When all members are counted, the one to pick from all may leave. -/
theorem even_erase_of_pick (hpick : s.pick s.members = .ok m)
    (hcurrent : ∀ x ∈ s.members.toList, s.controlPlane.isCurrent x = true)
    (h : EvenOver s.domains (s.controlPlane.currentIn s.members)) :
    EvenOver s.domains (s.controlPlane.currentIn (s.members.erase m.identity)) := by
  have hm : m ∈ s.members.toList := mem_of_pick hpick
  have hall : s.members.filter s.controlPlane.isCurrent = s.members :=
    Keyed.filter_eq_self hcurrent
  by_cases hwithin : ∃ d ∈ s.domains, m.failureDomain = some d
  · obtain ⟨d, hd, hdomain⟩ := hwithin
    refine h.remove_most (d := d) (fun e he => ?_) fun e => ?_
    · have hmost := countIn_le_of_pick hpick hdomain hd e he
      rw [Members.countIn_histogram, Members.countIn_histogram] at hmost
      rw [ControlPlane.currentIn, ControlPlane.currentIn, hall]
      exact hmost
    · rw [ControlPlane.currentIn_erase hm, ControlPlane.isCurrentIn_eq (hcurrent m hm) hdomain]
      simp
  · refine even_erase_of_uncounted hm (fun e he => ?_) h
    have hne : m.failureDomain ≠ some e := fun hdomain => hwithin ⟨e, he, hdomain⟩
    simp [ControlPlane.isCurrentIn, hne]

theorem even_erase (hselect : s.select s.outdated = .ok m)
    (hstaying : ∀ x ∈ s.members.toList, x.isStaying = true)
    (h : EvenOver s.domains (s.controlPlane.currentIn s.members)) :
    EvenOver s.domains (s.controlPlane.currentIn (s.members.erase m.identity)) := by
  have hm : m ∈ s.members.toList := mem_of_select (fun _ => outdated_subset) hselect
  have hunmarked : ∀ x ∈ s.members.toList, x.isMarked = false :=
    fun x hx => by simpa using (Bool.and_eq_true_iff.mp (hstaying x hx)).2
  cases hempty : s.outdated.isEmpty with
  | false =>
    -- An outdated member leaves, which is not counted.
    obtain ⟨x, hx⟩ := Keyed.isEmpty_eq_false_iff.mp hempty
    have hout : m ∈ s.outdated.toList :=
      (mem_or_isMarked_of_select ⟨x, .inl hx⟩ hselect).resolve_right (by simp [hunmarked m hm])
    have hold : s.controlPlane.isCurrent m = false := by
      simpa using (Bool.and_eq_true_iff.mp (Keyed.mem_filter.mp hout).2).2
    refine even_erase_of_uncounted hm (fun e _ => ?_) h
    rw [ControlPlane.isCurrentIn, hold, Bool.and_false]
  | true =>
    have hcurrent : ∀ x ∈ s.members.toList, s.controlPlane.isCurrent x = true := fun x hx =>
      isCurrent_of_isEmpty_outdated hempty hx
        (by simpa using (Bool.and_eq_true_iff.mp (hstaying x hx)).1)
    rw [select, candidates_eq_members hempty hunmarked] at hselect
    exact even_erase_of_pick hselect hcurrent h

/-- Every step leaves the members even, and none that is to go. -/
theorem Changes.even {before after : Inventory} {ended : Except Halt Outcome}
    (h : s.Changes draws before after ended)
    (hmembers : s.members = before.machines.filter s.owns)
    (hunclaimed : s.Unclaimed draws before.machines)
    (hstaying : ∀ x ∈ s.members.toList, x.isStaying = true)
    (heven : EvenOver s.domains (s.controlPlane.currentIn s.members)) :
    (∀ x ∈ (after.machines.filter s.owns).toList, x.isStaying = true) ∧
      EvenOver s.domains (s.controlPlane.currentIn (after.machines.filter s.owns)) := by
  cases h with
  | stay hsame =>
    rw [hsame, ← hmembers]
    exact ⟨hstaying, heven⟩
  | @joins m _ hjoins hdomain =>
    have hnew : s.members.contains m.identity = false := by
      rw [hmembers, Keyed.contains_eq_false_iff]
      intro x hx
      exact Keyed.contains_eq_false_iff.mp (hunclaimed.contains_of_joins hjoins) x
        (Keyed.mem_filter.mp hx).1
    rw [hjoins.machines, Keyed.filter_insert hjoins.owns, ← hmembers]
    refine ⟨fun x hx => ?_, even_insert hnew hjoins.isCurrent hdomain heven⟩
    rcases Keyed.mem_insert.mp hx with rfl | ⟨hx, -⟩
    · rw [Machine.isStaying, hjoins.isDeleting, hjoins.isMarked]
      rfl
    · exact hstaying x hx
  | leaves _ hselect _ herased =>
    rw [herased, Keyed.filter_erase, ← hmembers]
    exact ⟨fun x hx => hstaying x (Keyed.mem_erase.mp hx).1, even_erase hselect hstaying heven⟩
  | mistaken hdecoy hstored =>
    rw [hunclaimed.contains_of_decoy hdecoy] at hstored
    cases hstored

end Scope

/-! ## A run -/

/-- A machine but for what is reported about it. -/
def Machine.unreported (m : Machine) : Machine := { m with status := none }

namespace Memory

variable {p : ControlPlane} {domains : List String} {store s s' : Memory}

/-- The members that are as specified are even over the domains. -/
def Balanced (store : Memory) (p : ControlPlane) (domains : List String) : Prop :=
  EvenOver domains (p.currentIn (store.roster p))

/-- Between passes anything may change but the members, of which only what is
reported about them may.  The watch cache is not pinned. -/
structure KeepsMembers (p : ControlPlane) (s s' : Memory) : Prop where
  unpinned : s'.pinned = none
  members : (s'.roster p).toList.map Machine.unreported =
    (s.roster p).toList.map Machine.unreported

theorem keepsMembers_reported (hunpinned : store.pinned = none)
    (report : Machine → Option MachineStatus) : KeepsMembers p store (store.reported report) := by
  refine ⟨hunpinned, ?_⟩
  rw [toList_roster_reported, List.map_map]
  rfl

/-- A store whose watch cache is not pinned, with members that stay and are even. -/
structure Settled (p : ControlPlane) (domains : List String) (store : Memory) : Prop where
  unpinned : store.pinned = none
  staying : ∀ m ∈ (store.roster p).toList, m.isStaying = true
  balanced : store.Balanced p domains

theorem balanced_of_isEmpty (h : (store.roster p).isEmpty = true) : store.Balanced p domains := by
  intro a _ b _
  rw [ControlPlane.currentIn_eq_countP, List.isEmpty_iff.mp h]
  exact Nat.zero_le _

theorem Settled.of_keepsMembers (h : s.Settled p domains) (hkeeps : KeepsMembers p s s') :
    s'.Settled p domains := by
  refine ⟨hkeeps.unpinned, fun m hm => ?_, h.balanced.congr fun d _ => ?_⟩
  · have hrecord : m.unreported ∈ (s'.roster p).toList.map Machine.unreported :=
      List.mem_map_of_mem hm
    rw [hkeeps.members] at hrecord
    obtain ⟨x, hx, hsame⟩ := List.mem_map.mp hrecord
    calc m.isStaying
      _ = m.unreported.isStaying := rfl
      _ = x.unreported.isStaying := by rw [hsame]
      _ = true := h.staying x hx
  · have hcount (members : Members) : p.currentIn members d =
        (members.toList.map Machine.unreported).countP (p.isCurrentIn d) := by
      rw [ControlPlane.currentIn_eq_countP, List.countP_map]
      rfl
    rw [hcount, hcount, hkeeps.members]

end Memory

theorem Visit.turn_settled {v : Visit} {before : Memory} {p : ControlPlane} {domains : List String}
    (h : before.Settled p domains) (hcontinues : p.Continues v.controlPlane)
    (hcurrent : v.controlPlane.isCurrent = p.isCurrent)
    (hdomains : ∀ s ∈ before.scope? v.controlPlane, s.domains = domains)
    (hunclaimed : ∀ s ∈ before.scope? v.controlPlane,
      s.Unclaimed v.draws before.inventory.machines) :
    (v.turn before).after.Settled p domains := by
  have hunpinned : (v.turn before).after.pinned = none := (v.turn_pinned before).trans h.unpinned
  obtain hsame | ⟨s, ended, hscope, hmembers, howns, hchanges⟩ :=
    turn_roster h.unpinned hcontinues
  · exact ⟨hunpinned, hsame ▸ h.staying, by rw [Memory.Balanced, hsame]; exact h.balanced⟩
  · have hcount : s.controlPlane.currentIn = p.currentIn := by
      unfold ControlPlane.currentIn
      rw [Memory.scope?_controlPlane hscope, hcurrent]
    obtain ⟨hstaying, heven⟩ := hchanges.even (by rw [howns]; exact hmembers)
      (hunclaimed s hscope) (hmembers ▸ h.staying)
      (by rw [hcount, hmembers, hdomains s hscope]; exact h.balanced)
    rw [howns] at hstaying
    rw [howns, hcount, hdomains s hscope] at heven
    exact ⟨hunpinned, hstaying, heven⟩

/-- In a run of passes over one control plane with fixed domains and a fixed
specification, but for the number of members, the members that are as
specified are even over the domains before and after every pass, and at the
end, if they are at the start.  Nobody may ask to remove a member, and the
names that are drawn must not be in use. -/
theorem Run.stays_balanced {p : ControlPlane} {domains : List String} {start final : Memory}
    {turns : List Turn} (h : Run (Memory.KeepsMembers p) start turns final)
    (hunpinned : start.pinned = none)
    (hstaying : ∀ m ∈ (start.roster p).toList, m.isDeleting = false ∧ m.isMarked = false)
    (hpasses : ∀ turn ∈ turns, p.Continues turn.visit.controlPlane ∧
      turn.visit.controlPlane.spec.version = p.spec.version ∧
      turn.visit.controlPlane.spec.serverConfig = p.spec.serverConfig)
    (hdomains : ∀ turn ∈ turns, ∀ s ∈ turn.scope?, s.domains = domains)
    (hunclaimed : ∀ turn ∈ turns, ∀ s ∈ turn.scope?,
      s.Unclaimed turn.visit.draws turn.before.inventory.machines)
    (hstart : start.Balanced p domains) :
    (∀ turn ∈ turns, turn.before.Balanced p domains ∧ turn.after.Balanced p domains) ∧
      final.Balanced p domains := by
  have hsettled : start.Settled p domains :=
    ⟨hunpinned, fun m hm => by simp [Machine.isStaying, hstaying m hm], hstart⟩
  obtain ⟨hturns, hfinal⟩ := h.invariant (Memory.Settled p domains) hsettled
    (fun _ _ => Memory.Settled.of_keepsMembers) <| by
    intro v s hmem hs
    obtain ⟨hcontinues, hversion, hconfig⟩ := hpasses _ hmem
    have hcurrent : v.controlPlane.isCurrent = p.isCurrent := by
      funext m
      exact congrArg₂ (fun version config => m.runs version && m.wasMadeFrom config)
        hversion hconfig
    exact Visit.turn_settled (v := v) hs hcontinues hcurrent (hdomains _ hmem) (hunclaimed _ hmem)
  exact ⟨fun turn hmem => ⟨(hturns turn hmem).1.balanced, (hturns turn hmem).2.balanced⟩,
    hfinal.balanced⟩

/-- Passes like those of the sample rollout, for so many members. -/
def Sample.spreading (replicas : Int32) (i : Nat) : Visit :=
  { rollout i with controlPlane := controlPlane "cp" replicas }

/-- A store without machines, for members in two domains. -/
@[irreducible]
def Sample.vacant : Memory := memory ["az-1", "az-2"]

/-- A control plane grows from nothing to two members, one in each of two domains,
and shrinks to one, and it is balanced in between and at the end. -/
theorem growth_is_balanced :
    let p := Sample.controlPlane "cp" 2
    let t₁ := (Sample.spreading 2 0).turn (Sample.healthy Sample.vacant)
    let t₂ := (Sample.spreading 2 1).turn (Sample.healthy t₁.after)
    let t₃ := (Sample.spreading 1 2).turn (Sample.healthy t₂.after)
    (t₂.after.roster p).size = 2 ∧ p.currentIn (t₂.after.roster p) "az-1" = 1 ∧
      p.currentIn (t₂.after.roster p) "az-2" = 1 ∧ t₂.after.Balanced p ["az-1", "az-2"] ∧
      (t₃.after.roster p).size = 1 ∧ t₃.after.Balanced p ["az-1", "az-2"] := by
  intro p t₁ t₂ t₃
  have hpinned : Sample.vacant.pinned = none := by decide +kernel
  have hpinned₁ : t₁.after.pinned = none := (Visit.turn_pinned _ _).trans hpinned
  have hpinned₂ : t₂.after.pinned = none := (Visit.turn_pinned _ _).trans hpinned₁
  have hrun : Run (Memory.KeepsMembers p) Sample.vacant [t₁, t₂, t₃] t₃.after :=
    .cons (Memory.keepsMembers_reported hpinned _)
      (.cons (Memory.keepsMembers_reported hpinned₁ _)
        (.cons (Memory.keepsMembers_reported hpinned₂ _) (.nil _)))
  have hempty : (Sample.vacant.roster p).isEmpty = true := by decide +kernel
  have hpasses : ∀ turn ∈ [t₁, t₂, t₃], p.Continues turn.visit.controlPlane ∧
      turn.visit.controlPlane.spec.version = p.spec.version ∧
      turn.visit.controlPlane.spec.serverConfig = p.spec.serverConfig := by
    simp only [List.forall_mem_cons, List.not_mem_nil, false_implies, implies_true, and_true]
    exact ⟨⟨⟨rfl, rfl, rfl⟩, rfl, rfl⟩, ⟨⟨rfl, rfl, rfl⟩, rfl, rfl⟩, ⟨rfl, rfl, rfl⟩, rfl, rfl⟩
  -- Everything that has to be computed is computed at once.
  have hfacts : (∀ turn ∈ [t₁, t₂, t₃], ∀ s ∈ turn.scope?, s.domains = ["az-1", "az-2"] ∧
      s.Unclaimed turn.visit.draws turn.before.inventory.machines) ∧
      (t₂.after.roster p).size = 2 ∧ p.currentIn (t₂.after.roster p) "az-1" = 1 ∧
      p.currentIn (t₂.after.roster p) "az-2" = 1 ∧ (t₃.after.roster p).size = 1 := by
    decide +kernel
  obtain ⟨hscopes, htwo, hfirst, hsecond, hone⟩ := hfacts
  obtain ⟨hturns, hfinal⟩ := hrun.stays_balanced hpinned
    (by rw [List.isEmpty_iff.mp hempty]; simp) hpasses
    (fun turn hmem s hs => (hscopes turn hmem s hs).1)
    (fun turn hmem s hs => (hscopes turn hmem s hs).2) (Memory.balanced_of_isEmpty hempty)
  exact ⟨htwo, hfirst, hsecond, (hturns t₂ (by simp)).2, hone, hfinal⟩

end Roster
