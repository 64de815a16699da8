/-
Roster.Proofs.Quorum — a pass never takes a member away from a control
plane that could not spare it, unless it takes it for something else.

The members vote, so a change of the membership must find all of the
remaining ones at work.  `reconcile_changes_safely`: a machine is asked for
only when every member seen is steady, and a member is asked away only when
every other member seen is steady and these are at least as many as desired.
This holds for every store, whatever it lists and however it fails.

A pass also deletes what it made, when an attempt fails.  The names that are
drawn are not checked for being in use, so when the clone of the template has
the kind of machines, the reference to it can lead to a member
(`Scope.decoy?`).  In a store that creates things under the names they were
given (`Store.KeepsKeys`) this is the one exception.  `clone_costs_a_quorum` is
a pass of a control plane that should have three members and asks its only one
away.

The proof follows the requests of a pass on a recorded store.  What a
scope permits to ask (`Scope.Permits`) does not lapse while more objects
are made, so it is enough to look at one step at a time.
-/
import Roster.Proofs.Membership
import Roster.Proofs.Planning
import Roster.Proofs.Preflight
import Roster.Proofs.Requests
import Roster.Proofs.Selection
import Roster.Sample

namespace Roster

variable {σ : Type}

/-- What a store creates goes by the kind, the namespace and the name that were
asked for. -/
def Store.KeepsKeys (store : Store σ) : Prop :=
  ∀ o created before after, store.createObject o before = (.ok created, after) →
    created.reference?.map Reference.key = o.reference?.map Reference.key

namespace Scope

/-- The members that are left without `m`. -/
def without (s : Scope) (m : Machine) : Members := s.members.erase m.identity

/-- The control plane can do without the member `m`: all others are steady, and
they are enough. -/
structure CanSpare (s : Scope) (m : Machine) : Prop where
  mem : m ∈ s.members.toList
  steady : ∀ x ∈ (s.without m).toList, x.isSteady = true
  enough : s.desired ≤ ((s.without m).filter Machine.isSteady).size

/-- The reference is to something that was made, and leads to no machine but the one
that the clone of the template passes for. -/
structure CanUndo (s : Scope) (setting : Setting σ) (made : List Reference) (r : Reference) :
    Prop where
  mem : r ∈ made
  apart : setting.store.KeepsKeys → r.kind = Kind.machine.name →
    s.decoy? setting.draws = some r.identity

theorem CanUndo.mono {s : Scope} {setting : Setting σ} {made made' : List Reference}
    {r : Reference} (h : s.CanUndo setting made r) (hsub : made ⊆ made') :
    s.CanUndo setting made' r := ⟨hsub h.mem, h.apart⟩

/-- What a pass may ask that looked at `s`, after some objects were made: to
create something when all members are steady, to delete then what was made,
and to delete a member that can be spared. -/
def Permits (s : Scope) (setting : Setting σ) (made : List Reference) : Request → Prop
  | .createObject _ => s.AllSteady
  | .createBootstrapConfig _ => s.AllSteady
  | .createMachine _ => s.AllSteady
  | .delete r => s.CanUndo setting made r ∧ s.AllSteady ∨ ∃ m, s.CanSpare m ∧ r = m.reference
  | _ => True

theorem lasting_permits (s : Scope) (setting : Setting σ) :
    Recorded.Lasting (s.Permits setting) := by
  intro q made made' hsub h
  cases q with
  | delete r => exact h.imp_left fun ⟨hundo, hsteady⟩ => ⟨hundo.mono hsub, hsteady⟩
  | _ => exact h

theorem allowsQuiet_permits (s : Scope) (setting : Setting σ) :
    AllowsQuiet (s.Permits setting) := by
  intro made q hquiet
  cases q <;> trivial

end Scope

open Recorded Scope

variable {s : Scope} {setting : Setting σ} {j : Journal (Recorded σ)}

/-! ## Creating a member -/

/-- What was made may be deleted again. -/
theorem asks_removeEach {refs : List Reference} (hsteady : s.AllSteady)
    (hundo : ∀ r ∈ refs, s.CanUndo setting j.store.made r) :
    Asks (s.Permits setting) (removeEach setting.store.recorded refs) j fun _ _ => True := by
  have lasting := s.lasting_permits setting
  induction refs generalizing j with
  | nil => exact asks_pure trivial
  | cons r rest ih =>
    obtain ⟨hr, hall⟩ := List.forall_mem_cons.mp hundo
    refine asks_bind lasting (asks_attempt (asks_asking fun made hsub => ?_)) ?_
    · exact .inl ⟨hr.mono hsub, hsteady⟩
    intro deleted j₁ hsub _
    have hrest := ih (j := j₁) fun x hx => (hall x hx).mono hsub
    refine asks_bind lasting hrest fun failures j₂ _ _ => ?_
    cases deleted with
    | ok _ => exact asks_pure trivial
    | error e =>
      dsimp only
      split <;> exact asks_pure trivial

theorem asks_rollBack {refs : List Reference} {cause : Error} {ok : Machine → List Reference → Prop}
    (hsteady : s.AllSteady) (hundo : ∀ r ∈ refs, s.CanUndo setting j.store.made r) :
    Asks (s.Permits setting) (rollBack setting.store.recorded refs cause) j ok := by
  have lasting := s.lasting_permits setting
  have hall : Asks (s.Permits setting) (removeAll setting.store.recorded refs) j
      fun _ _ => True := by
    refine asks_bind lasting (asks_removeEach hsteady hundo) fun failures _ _ _ => ?_
    cases Error.ofList? failures with
    | none => exact asks_pure trivial
    | some e => exact asks_fail
  refine asks_bind lasting (asks_attempt hall) fun ended _ _ _ => ?_
  cases ended <;> exact asks_fail

/-- In a store that keeps keys, a clone of the kind of machines is the decoy. -/
theorem Scope.decoy?_of_clone {template clone created : Unstructured} {r : Reference}
    {before after : σ} (hkeeps : setting.store.KeepsKeys)
    (hclone : s.infrastructureClone setting.draws.infrastructure s.templateRef template = .ok clone)
    (hcreated : setting.store.createObject clone before = (.ok created, after))
    (hr : created.reference? = some r) (hmachine : r.kind = Kind.machine.name) :
    s.decoy? setting.draws = some r.identity := by
  obtain ⟨kind, name, hcloned, hname, -, hkind, hnamed, hns⟩ := infrastructureClone_eq_ok hclone
  have hkey : r.key = ⟨kind, s.ns, name⟩ := by
    have hsame := hkeeps _ _ _ _ hcreated
    rw [hr, Unstructured.reference?, hkind, hnamed, hns] at hsame
    exact Option.some.inj hsame
  have hidentity : r.identity = ⟨s.ns, name⟩ :=
    congrArg (fun key : ObjectKey => (⟨key.ns, key.name⟩ : Identity)) hkey
  obtain rfl : Kind.machine.name = kind := hmachine.symm.trans (congrArg ObjectKey.kind hkey)
  rw [decoy?, if_pos hcloned, hname, hidentity]
  rfl

/-- The clone of the infrastructure template can be undone. -/
theorem asks_cloneInfrastructure (hsteady : s.AllSteady) :
    Asks (s.Permits setting)
      (s.cloneInfrastructure setting.store.recorded setting.draws.infrastructure) j
      fun r made => s.CanUndo setting made r := by
  have lasting := s.lasting_permits setting
  refine asks_bind lasting (asks_looking fun _ => trivial) fun template _ _ _ => ?_
  refine asks_bind lasting asks_decided fun clone _ _ hclone => ?_
  refine asks_bind lasting (asks_asking fun _ _ => hsteady) ?_
  rintro created _ _ ⟨⟨before, after, hcreated⟩, hmade⟩
  cases hr : created.reference? with
  | none => exact asks_fail
  | some r =>
    have hundo : s.CanUndo setting _ r :=
      ⟨hmade r hr, fun hkeeps => decoy?_of_clone hkeeps hclone hcreated hr⟩
    exact asks_pure hundo

/-- The settings of the node can be undone; they are no machine. -/
theorem asks_createBootstrapConfig {suffix : Suffix} {agentConfig : AgentConfig}
    (hsteady : s.AllSteady) :
    Asks (s.Permits setting) (s.createBootstrapConfig setting.store.recorded suffix agentConfig) j
      fun r made => s.CanUndo setting made r := by
  have lasting := s.lasting_permits setting
  refine asks_bind lasting asks_decided fun config _ _ _ => ?_
  refine asks_bind lasting (asks_inContext (asks_asking fun _ _ => hsteady)) ?_
  rintro created _ _ ⟨-, hmade⟩
  have hkind : created.reference.kind ≠ Kind.machine.name :=
    (by decide : Kind.bootstrapConfig.name ≠ Kind.machine.name)
  exact asks_pure ⟨hmade created.reference rfl, fun _ hmachine => absurd hmachine hkind⟩

theorem asks_createMachine {suffix : Suffix} {infrastructure bootstrap : Reference}
    {failureDomain : Option String} (hsteady : s.AllSteady) :
    Asks (s.Permits setting)
      (s.createMachine setting.store.recorded suffix infrastructure bootstrap failureDomain) j
      fun _ _ => True := by
  refine asks_bind (s.lasting_permits setting) asks_decided fun machine _ _ _ => ?_
  exact asks_inContext ((asks_asking fun _ _ => hsteady).mono fun _ _ _ => trivial)

/-- A control plane with steady members may create one, and undo that. -/
theorem asks_provision {agentConfig : AgentConfig} {failureDomain : Option String}
    (hsteady : s.AllSteady) :
    Asks (s.Permits setting)
      (s.provision setting.store.recorded setting.draws agentConfig failureDomain) j
      fun _ _ => True := by
  have lasting := s.lasting_permits setting
  refine asks_bind lasting (asks_inContext (asks_cloneInfrastructure hsteady))
    fun infrastructure _ _ hinfra => ?_
  refine asks_bind lasting (asks_attempt (asks_createBootstrapConfig hsteady)) ?_
  rintro (e | bootstrap) j₂ hsub₂ hboot
  · refine asks_rollBack hsteady ?_
    simpa using hinfra.mono hsub₂
  refine asks_bind lasting (asks_attempt (asks_createMachine hsteady)) ?_
  rintro (e | machine) j₃ hsub₃ -
  · refine asks_rollBack hsteady ?_
    simpa using ⟨(hinfra.mono hsub₂).mono hsub₃, (hboot bootstrap rfl).mono hsub₃⟩
  · exact asks_pure trivial

/-! ## The steps -/

theorem asks_addMember {action created failedReason failed : String} (hsteady : s.AllSteady) :
    Asks (s.Permits setting) (s.addMember setting.recorded action created failedReason
      failed) j fun _ _ => True := by
  have lasting := s.lasting_permits setting
  refine asks_bind lasting (asks_attempt (asks_provision hsteady)) ?_
  rintro (e | machine) _ _ -
  · exact asks_bind lasting asks_publish fun _ _ _ _ => asks_fail
  · exact asks_bind lasting asks_publish fun _ _ _ _ => asks_pure trivial

/-- The first member finds no others. -/
theorem asks_found (hempty : s.members.size = 0) :
    Asks (s.Permits setting) (s.found setting.recorded) j fun _ _ => True := by
  have lasting := s.lasting_permits setting
  have hsteady : s.AllSteady := by
    intro m hm
    rw [List.eq_nil_of_length_eq_zero hempty] at hm
    cases hm
  refine asks_bind lasting (asks_looking fun _ => trivial) fun listed _ _ _ => ?_
  dsimp only
  split
  · exact asks_fail
  · exact asks_addMember hsteady

theorem asks_grow : Asks (s.Permits setting) (s.grow setting.recorded) j fun _ _ => True := by
  have lasting := s.lasting_permits setting
  refine asks_bind lasting (asks_check lasting) fun verdict _ _ hverdict => ?_
  cases hblocking : verdict.blocking with
  | some wait => exact asks_pure trivial
  | none =>
    have hclear := hverdict ▸ Preflight.blocking_eq_none_iff.mp hblocking
    have hsteady : s.AllSteady := fun m hm => Scope.preflight_eq_passed_iff.mp hclear m hm (by simp)
    exact asks_bind lasting asks_publish fun _ _ _ _ => asks_addMember hsteady

/-- A control plane above its size can spare the member it selects, once the
check of the others is passed. -/
theorem Scope.canSpare_of_select {outdated : Members} {m : Machine}
    (hout : ∀ x ∈ outdated.toList, x ∈ s.members.toList) (hsize : s.desired < s.members.size)
    (hselect : s.select outdated = .ok m)
    (hclear : ∀ x ∈ s.members.toList, m.identity ≠ x.identity → x.isSteady = true) :
    s.CanSpare m := by
  have hm : m ∈ s.members.toList := Scope.mem_of_select hout hselect
  have hsteady : ∀ x ∈ (s.without m).toList, x.isSteady = true := by
    intro x hx
    obtain ⟨hx, hne⟩ := Keyed.mem_erase.mp hx
    exact hclear x hx (Ne.symm hne)
  refine ⟨hm, hsteady, ?_⟩
  have hlength : s.members.size = (s.without m).size + 1 := (Keyed.perm_erase hm).length_eq
  have hall : (s.without m).toList.countP Machine.isSteady = (s.without m).size :=
    List.countP_eq_length.mpr hsteady
  rw [Keyed.size_filter, hall]
  omega

theorem asks_spared {outdated : Members} (hout : ∀ x ∈ outdated.toList, x ∈ s.members.toList)
    (hsize : s.desired < s.members.size) :
    Asks (s.Permits setting) (s.shrink setting.recorded outdated) j fun _ _ => True := by
  refine asks_shrink (s.lasting_permits setting) fun m hselect hblocking made => ?_
  have hclear := Scope.preflight_eq_passed_iff.mp (Preflight.blocking_eq_none_iff.mp hblocking)
  exact .inr ⟨m, Scope.canSpare_of_select hout hsize hselect (by simpa using hclear), rfl⟩

/-- Every step asks only for what its scope permits. -/
theorem asks_step :
    Asks (s.Permits setting) (s.step setting.recorded) j fun _ _ => True := by
  have hcalled := s.callsFor_plan
  unfold Scope.step
  cases hplan : s.plan with
  | found =>
    rw [hplan] at hcalled
    exact asks_found hcalled.1
  | grow => exact asks_grow
  | shrink rollout =>
    rw [hplan] at hcalled
    refine asks_spared ?_ hcalled.1
    cases rollout with
    | true => exact fun x hx => Scope.outdated_subset hx
    | false => exact fun x hx => by cases hx
  | stable => exact asks_pure trivial

/-! ## A whole pass -/

/-- A pass asks for changes only as the scope it decided on permits. -/
theorem isQuiet_or_permits {now : Instant} {p : ControlPlane} {start : σ} {events : List Event}
    {q : Request}
    (hq : q ∈ (reconcile setting.recorded now p ⟨.fresh start, events⟩).2.store.requests) :
    q.isQuiet = true ∨ ∃ s, Decides setting.store.recorded p ⟨.fresh start, events⟩ s ∧
      s.Permits setting (reconcile setting.recorded now p ⟨.fresh start, events⟩).2.store.made q :=
  isQuiet_or_follows (fun s => s.Permits setting) (fun s => s.lasting_permits setting)
    (fun s => s.allowsQuiet_permits setting) (fun _ _ _ => asks_step) hq

/-- A machine is created only when every member is steady.  A deletion is of a
member seen that can be spared, every other one being steady and these at
least as many as desired; or it is of what was created in the same pass,
with every member steady.

In a store that keeps keys the latter leads to none of the machines in use,
whichever these are, if the clone of the template passes for none of them: of
these only a member that can be spared is asked away. -/
theorem reconcile_changes_safely (setting : Setting σ) (now : Instant) (p : ControlPlane)
    (start : σ) (events : List Event) :
    let final := (reconcile setting.recorded now p ⟨.fresh start, events⟩).2.store
    let decides (s : Scope) : Prop := Decides setting.store.recorded p ⟨.fresh start, events⟩ s
    let spared (r : Reference) : Prop :=
      ∃ s, decides s ∧ ∃ m ∈ s.members.toList, r = m.reference ∧
        (∀ x ∈ (s.members.erase m.identity).toList, x.isSteady = true) ∧
        s.desired ≤ ((s.members.erase m.identity).filter Machine.isSteady).size
    (∀ m, Request.createMachine m ∈ final.requests →
      ∃ s, decides s ∧ ∀ x ∈ s.members.toList, x.isSteady = true) ∧
    (∀ r, Request.delete r ∈ final.requests →
      spared r ∨ r ∈ final.made ∧ ∃ s, decides s ∧ ∀ x ∈ s.members.toList, x.isSteady = true) ∧
    (setting.store.KeepsKeys → ∀ inUse : Identity → Prop,
      (∀ s, decides s → ∀ i ∈ s.decoy? setting.draws, ¬ inUse i) →
      ∀ r, Request.delete r ∈ final.requests → r.kind = Kind.machine.name → inUse r.identity →
        spared r) := by
  intro final decides spared
  have hspared {s : Scope} {m : Machine} (hdecides : decides s) (h : s.CanSpare m) :
      spared m.reference := ⟨s, hdecides, m, h.mem, rfl, h.steady, h.enough⟩
  refine ⟨fun m hm => ?_, fun r hr => ?_, fun hkeeps inUse hfree r hr hmachine hused => ?_⟩
  · obtain hquiet | ⟨s, hdecides, hsteady⟩ := isQuiet_or_permits hm
    · cases hquiet
    · exact ⟨s, hdecides, hsteady⟩
  · obtain hquiet | ⟨s, hdecides, ⟨hundo, hsteady⟩ | ⟨m, hspare, rfl⟩⟩ := isQuiet_or_permits hr
    · cases hquiet
    · exact .inr ⟨hundo.mem, s, hdecides, hsteady⟩
    · exact .inl (hspared hdecides hspare)
  · obtain hquiet | ⟨s, hdecides, ⟨hundo, -⟩ | ⟨m, hspare, rfl⟩⟩ := isQuiet_or_permits hr
    · cases hquiet
    · exact absurd hused (hfree s hdecides _ (hundo.apart hkeeps hmachine))
    · exact hspared hdecides hspare

/-- A store in memory gives a new object a uid, and leaves its key alone. -/
theorem Memory.keepsKeys : Memory.store.KeepsKeys := by
  intro o created before after hcreated
  have hsame : (Memory.createObject o before).1 = .ok created := congrArg Prod.fst hcreated
  rw [Memory.createObject] at hsame
  split at hsame
  · cases hsame
  dsimp only at hsame
  split at hsame
  · cases hsame
  · cases hsame
    cases o with
    | mk kind metadata data => cases kind <;> rfl

/-- A recorded pass over a control plane and what a store holds. -/
def Sample.recordedPass (p : ControlPlane) (store : Memory) :
    Except Halt Action × Journal (Recorded Memory) :=
  reconcile (Setting.recorded ⟨Memory.store, .usual, ⟨.first, .first, .first⟩⟩)
    (Instant.ofSeconds epoch) p ⟨.fresh store, []⟩

/-- The objects that a recorded pass asked to delete. -/
def Sample.askedAway (pass : Except Halt Action × Journal (Recorded Memory)) : List Reference :=
  pass.2.store.requests.filterMap Request.deleted?

theorem Sample.mem_askedAway {pass : Except Halt Action × Journal (Recorded Memory)}
    {r : Reference} : r ∈ askedAway pass ↔ Request.delete r ∈ pass.2.store.requests := by
  refine List.mem_filterMap.trans ⟨?_, fun h => ⟨_, h, rfl⟩⟩
  rintro ⟨q, hq, hdelete⟩
  cases q with
  | delete r' => exact Option.some.inj hdelete ▸ hq
  | _ => cases hdelete

/-- Two steady members of a control plane that should have one. -/
@[irreducible]
def Sample.oversized : Memory :=
  let p := controlPlane "cp" 1
  let now := Instant.ofSeconds epoch
  let inventory := ((memory ["az-1"]).inventory.putMachine
    (machine now p "cp-a" (some "az-1") now)).putMachine (machine now p "cp-b" (some "az-1") now)
  { memory ["az-1"] with inventory := inventory }

/-- The oversized control plane asks one of its machines away, a member that it can
spare. -/
theorem oversized_deletes_safely :
    let p := Sample.controlPlane "cp" 1
    ∃ r, Request.delete r ∈ (Sample.recordedPass p Sample.oversized).2.store.requests ∧
      Sample.oversized.inventory.machines.contains r.identity = true ∧
      ∃ s, Decides Memory.store.recorded p ⟨.fresh Sample.oversized, []⟩ s ∧
        ∃ m ∈ s.members.toList, r = m.reference ∧
          (∀ x ∈ (s.members.erase m.identity).toList, x.isSteady = true) ∧
          s.desired ≤ ((s.members.erase m.identity).filter Machine.isSteady).size := by
  intro p
  have hasked : (Sample.askedAway (Sample.recordedPass p Sample.oversized)).any (fun r =>
      r.kind = Kind.machine.name ∧
        Sample.oversized.inventory.machines.contains r.identity = true) = true := by
    decide +kernel
  have hspares : ∀ s ∈ Sample.oversized.scope? p, ∀ i ∈ s.decoy? ⟨.first, .first, .first⟩,
      Sample.oversized.inventory.machines.contains i ≠ true := by decide +kernel
  obtain ⟨r, hr, hfacts⟩ := List.any_eq_true.mp hasked
  obtain ⟨hmachine, hstored⟩ := of_decide_eq_true hfacts
  have hdelete := Sample.mem_askedAway.mp hr
  obtain ⟨-, -, honly⟩ := reconcile_changes_safely
    ⟨Memory.store, .usual, ⟨.first, .first, .first⟩⟩ (Instant.ofSeconds Sample.epoch) p
    Sample.oversized []
  refine ⟨r, hdelete, hstored, ?_⟩
  refine honly Memory.keepsKeys (Sample.oversized.inventory.machines.contains · = true)
    (fun s hdecides => ?_) r hdelete hmachine hstored
  exact hspares s (Memory.decides_iff.mp (decides_recorded_iff.mp hdecides))

/-- A control plane with a template whose clones have the kind of machines, and
their API version. -/
def Sample.mimicking : ControlPlane :=
  let p := controlPlane "cp" 3
  { p with spec := { p.spec with
      infrastructureRef := { p.spec.infrastructureRef with
        apiVersion := Kind.machine.apiVersion
        kind := "MachineTemplate" } } }

/-- A store with that template, and with a member that has the first name drawn
for a clone of it, and the first uid.  No machine can be created. -/
@[irreducible]
def Sample.mimicked : Memory :=
  let now := Instant.ofSeconds epoch
  let template := { template with kind := some ⟨Kind.machine.apiVersion, "MachineTemplate"⟩ }
  let member := machine now mimicking "cp-template-bbbbb" (some "az-1") now
  let inventory := (memory ["az-1"]).inventory.putObject template.key template
  { memory ["az-1"] with
    inventory := inventory.putMachine
      { member with metadata := { member.metadata with uid := some "uid-1" } }
    faults := [.createMachine] }

/-- A control plane that should have three members asks its only one away, since the
clone to be deleted goes by the same reference; and the member is gone. -/
theorem clone_costs_a_quorum :
    ∃ s, Decides Memory.store.recorded Sample.mimicking ⟨.fresh Sample.mimicked, []⟩ s ∧
      ∃ m ∈ s.members.toList,
        let final := (Sample.recordedPass Sample.mimicking Sample.mimicked).2.store
        Request.delete m.reference ∈ final.requests ∧
          ((s.members.erase m.identity).filter Machine.isSteady).size < s.desired ∧
          final.store.inventory.machines.contains m.identity = false := by
  have hfacts : (Sample.mimicked.scope? Sample.mimicking).any (fun s =>
      s.members.toList.any fun m =>
        let pass := Sample.recordedPass Sample.mimicking Sample.mimicked
        m.reference ∈ Sample.askedAway pass ∧
          ((s.members.erase m.identity).filter Machine.isSteady).size < s.desired ∧
          pass.2.store.store.inventory.machines.contains m.identity = false) = true := by
    decide +kernel
  obtain ⟨s, hscope, hmember⟩ := (Option.any_eq_true ..).mp hfacts
  obtain ⟨m, hm, hasked⟩ := List.any_eq_true.mp hmember
  obtain ⟨hdelete, hfew, hgone⟩ := of_decide_eq_true hasked
  have hdecides : Decides Memory.store Sample.mimicking ⟨Sample.mimicked, []⟩ s :=
    Memory.decides_iff.mpr hscope
  exact ⟨s, decides_recorded_iff.mpr hdecides, m, hm, Sample.mem_askedAway.mp hdelete, hfew, hgone⟩

end Roster
