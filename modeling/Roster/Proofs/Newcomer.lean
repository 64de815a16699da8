/-
Roster.Proofs.Newcomer — an attempt to create a member that cannot fail,
and what comes of it.

In an undisturbed store (`Scope.Undisturbed`) no call fails, the template
is one, and names can be made; then every attempt succeeds
(`Undisturbed.provision_ensures`).  What it adds is a member of the
control plane: it is managed by it, as specified, and nobody asked to
remove it.  That it is as specified rests on what it records
(`Machine.Records.isCurrent_iff`).

An attempt leaves the template in its place, so the next one succeeds as
well: the kind of a clone is never the kind of its template.
-/
import Roster.Proofs.Atomicity
import Roster.Proofs.Drift
import Roster.Proofs.MemoryPass
import Roster.Proofs.Preflight

namespace Roster

/-- The store answers calls by the same rules: its cache is pinned to the same
machines, and the same calls fail. -/
structure Memory.RulesKept (before after : Memory) : Prop where
  pinned : after.pinned = before.pinned
  faults : after.faults = before.faults

namespace Scope

variable {s : Scope} {before after : Memory} {draws : Draws} {agentConfig : AgentConfig}
  {failureDomain : Option String} {m : Machine}

/-! ## A new machine is a member -/

namespace Enrolls

variable {suffix : Suffix} {infrastructure bootstrap : Reference}

theorem owns (h : s.Enrolls suffix infrastructure bootstrap failureDomain before m) :
    s.owns m = true := by
  obtain ⟨m₀, hmachine, rfl⟩ := h.blueprint
  have hmanages : s.controlPlane.manages { m₀ with metadata := before.stamp m₀.metadata } =
      s.controlPlane.manages m₀ := rfl
  obtain ⟨name, r, -, -, hmetadata, hspec, -⟩ := newMachine_eq_ok hmachine
  rw [Scope.owns, hmanages, manages_of_newMachine hmachine]
  simp [Inventory.belongs, Typed.ns, Metadata.namespaceText, Memory.stamp, hmetadata, hspec]

/-- A new machine is as the control plane specifies. -/
theorem isCurrent (h : s.Enrolls suffix infrastructure bootstrap failureDomain before m) :
    s.controlPlane.isCurrent m = true := by
  obtain ⟨m₀, hmachine, rfl⟩ := h.blueprint
  obtain ⟨hversion, hsettings⟩ := newMachine_records hmachine
  have hrecords : Machine.Records { m₀ with metadata := before.stamp m₀.metadata }
      s.controlPlane.spec.version s.controlPlane.spec.serverConfig := ⟨hversion, hsettings⟩
  exact hrecords.isCurrent_iff.mpr ⟨rfl, rfl⟩

/-- Nobody asked to remove a new machine. -/
theorem isMarked (h : s.Enrolls suffix infrastructure bootstrap failureDomain before m) :
    m.isMarked = false := by
  obtain ⟨m₀, hmachine, rfl⟩ := h.blueprint
  obtain ⟨name, r, -, -, hmetadata, -⟩ := newMachine_eq_ok hmachine
  have hrecord : Table.lookup (.ofList
      [(Labels.serverConfiguration, s.controlPlane.spec.serverConfig.snapshot)])
      Labels.deleteMachine = none :=
    Table.lookup_put.trans (if_neg (by decide))
  simp [Machine.isMarked, Machine.annotation?, Metadata.annotation?, Memory.stamp, hmetadata,
    hrecord]

theorem isDeleting (h : s.Enrolls suffix infrastructure bootstrap failureDomain before m) :
    m.isDeleting = false := by
  obtain ⟨m₀, hmachine, rfl⟩ := h.blueprint
  obtain ⟨name, r, -, -, hmetadata, -⟩ := newMachine_eq_ok hmachine
  simp [Machine.isDeleting, Memory.stamp, hmetadata, Metadata.named, Metadata.empty]

/-- A new machine is placed where it was meant to be. -/
theorem failureDomain_eq
    (h : s.Enrolls suffix infrastructure bootstrap failureDomain before m) :
    m.failureDomain = failureDomain := by
  obtain ⟨m₀, hmachine, rfl⟩ := h.blueprint
  obtain ⟨name, r, -, -, -, hspec, -⟩ := newMachine_eq_ok hmachine
  rw [Machine.failureDomain, hspec]

end Enrolls

/-! ## An attempt that cannot fail -/

/-- A store where nothing stands in the way of a new member. -/
structure Undisturbed (s : Scope) (store : Memory) : Prop where
  /-- The watch cache shows what is stored. -/
  unpinned : store.pinned = none
  /-- No call is told to fail. -/
  allowed : store.faults = []
  isNamed : s.IsNamed
  /-- The template describes an object, of a kind. -/
  template : ∃ template inner, store.inventory.objects.lookup s.templateRef.key = some template ∧
    (template.data.lookup "spec").bind (Json.get? "template") = some inner
  kind : ∃ kind, clonedKind? s.templateRef.kind = some kind
  /-- There is a name for everything. -/
  names : ∀ stem ∈ [s.name, s.templateRef.name], ∀ suffix, ∃ name,
    freshName stem suffix = .ok name

namespace Undisturbed

/-- A store stays undisturbed as long as the template is in its place. -/
theorem of_rulesKept (h : s.Undisturbed before) (hrules : before.RulesKept after)
    (htemplate : after.inventory.objects.lookup s.templateRef.key =
      before.inventory.objects.lookup s.templateRef.key) : s.Undisturbed after := by
  refine ⟨hrules.pinned.trans h.unpinned, hrules.faults.trans h.allowed, h.isNamed, ?_, h.kind,
    h.names⟩
  rw [htemplate]
  exact h.template

/-- No attempt fails. -/
theorem not_provisionFails {made : List Item} {halt : Halt} (h : s.Undisturbed before) :
    ¬ s.ProvisionFails draws agentConfig failureDomain before made halt after := by
  have hallowed (f : Fault) : f ∉ before.faults := by simp [h.allowed]
  obtain ⟨template, inner, htemplate, hinner⟩ := h.template
  obtain ⟨kind, hkind⟩ := h.kind
  have hname (suffix : Suffix) : ∃ name, freshName s.name suffix = .ok name :=
    h.names _ (by simp) suffix
  intro hfails
  cases hfails with
  | clone hclone =>
    cases hclone with
    | noTemplate hnone =>
      rw [htemplate] at hnone
      cases hnone
    | noBlueprint hfound hnone =>
      obtain ⟨name, hname⟩ := h.names s.templateRef.name (by simp) draws.infrastructure
      obtain ⟨o, ho⟩ := exists_infrastructureClone h.isNamed hinner hkind hname
      obtain rfl := Option.some.inj (htemplate.symm.trans hfound)
      rw [ho] at hnone
      cases hnone
    | refused hfault => exact hallowed _ hfault
  | settingsUnnamed _ hnone =>
    obtain ⟨name, hname⟩ := hname draws.bootstrap
    obtain ⟨c, hc⟩ : ∃ c, s.bootstrapConfig draws.bootstrap agentConfig = .ok c :=
      exists_bootstrapConfig h.isNamed hname
    rw [hc] at hnone
    cases hnone
  | settings _ hfault => exact hallowed _ hfault
  | machineUnnamed _ _ hnone =>
    obtain ⟨name, hname⟩ := hname draws.machine
    obtain ⟨m, hm⟩ := exists_newMachine h.isNamed hname
    rw [hm] at hnone
    cases hnone
  | machine _ _ hfault => exact hallowed _ hfault

end Undisturbed

/-! ## What comes of it -/

/-- The kind of a clone is not the kind of its template. -/
theorem ne_of_clonedKind? {template kind : String} (h : clonedKind? template = some kind) :
    kind ≠ template := by
  obtain ⟨-, rfl⟩ := clonedKind?_eq_some_iff.mp h
  intro heq
  have hlength := congrArg (fun text : String => text.toList.length) heq
  simp [templateEnding] at hlength

/-- `after` is `before` with a new member `m` of the control plane, made from
`draws`. -/
structure Joins (s : Scope) (draws : Draws) (before : Inventory) (m : Machine)
    (after : Inventory) : Prop where
  owns : s.owns m = true
  isCurrent : s.controlPlane.isCurrent m = true
  isMarked : m.isMarked = false
  isDeleting : m.isDeleting = false
  identity : ∃ name, freshName s.name draws.machine = .ok name ∧ m.identity = ⟨s.ns, name⟩
  machines : after.machines = before.machines.insert m
  clusters : after.clusters = before.clusters
  template : after.objects.lookup s.templateRef.key = before.objects.lookup s.templateRef.key

/-- A successful attempt brings a new member. -/
theorem Provisions.joins (h : s.Provisions draws agentConfig failureDomain before m after) :
    s.Joins draws before.inventory m after.inventory ∧ before.RulesKept after := by
  obtain ⟨hclone, hsettings, hmachine⟩ := h
  obtain ⟨kind, name, hkind, -, hr, -⟩ := hclone.spec
  obtain ⟨name, hname, hidentity, -⟩ := hmachine.spec
  refine ⟨⟨hmachine.owns, hmachine.isCurrent, hmachine.isMarked, hmachine.isDeleting,
    ⟨name, hname, hidentity⟩, rfl, rfl, ?_⟩, rfl, rfl⟩
  refine Table.lookup_put.trans (if_neg fun hkey => ?_)
  have hkinds : s.templateRef.kind = kind := by
    rw [hr] at hkey
    exact congrArg ObjectKey.kind hkey
  exact ne_of_clonedKind? hkind hkinds.symm

/-- A successful attempt places the new member where it was meant to be. -/
theorem Provisions.failureDomain_eq
    (h : s.Provisions draws agentConfig failureDomain before m after) :
    m.failureDomain = failureDomain := by
  obtain ⟨-, -, hmachine⟩ := h
  exact hmachine.failureDomain_eq

/-- In an undisturbed store every attempt brings a new member. -/
theorem Undisturbed.provision_ensures {j : Journal Memory} (h : s.Undisturbed j.store) :
    (s.provision Memory.store draws agentConfig failureDomain).Ensures j
      (fun m j' => s.Joins draws j.store.inventory m j'.store.inventory ∧
        j.store.RulesKept j'.store)
      fun _ _ => False :=
  Scope.provision_ensures.mono (fun _ _ hprovisions => hprovisions.1.joins)
    fun _ _ ⟨⟨_, hfails⟩, _⟩ => h.not_provisionFails hfails

end Scope

end Roster
