/-
Roster.Proofs.Atomicity — an attempt to create a member is all or nothing.

`provision_all_or_nothing`: an attempt that succeeds has added exactly an
infrastructure object, the settings of a node, and the machine, and the
machine refers to the other two as they are stored.  An attempt that fails
has added nothing but what its own clean-up was told not to delete, and
its error speaks of that.

The names drawn have to be unused, or something that was there before
would be replaced, and the infrastructure object must not be of a kind
that a store keeps apart, or its reference would not lead to it.
-/
import Roster.Proofs.Provisioning
import Roster.Sample

namespace Roster

/-- A reference that says what an object of a kind says about itself. -/
structure Reference.Names (r : Reference) (kind : String) (m : Metadata) : Prop where
  kind : r.kind = kind
  ns : r.ns = m.ns
  name : m.name = some r.name
  uid : ∃ uid, m.uid = some uid ∧ r.uid = some uid

namespace Scope

variable {s : Scope} {before : Memory}

/-- The names drawn for a new member are not in use. -/
structure Unused (s : Scope) (draws : Draws) (inv : Inventory) : Prop where
  infrastructure : ∀ kind name, clonedKind? s.templateRef.kind = some kind →
    freshName s.templateRef.name draws.infrastructure = .ok name →
    inv.objects.contains ⟨kind, s.ns, name⟩ = false
  bootstrap : ∀ name, freshName s.name draws.bootstrap = .ok name →
    inv.configs.contains ⟨s.ns, name⟩ = false
  machine : ∀ name, freshName s.name draws.machine = .ok name →
    inv.machines.contains ⟨s.ns, name⟩ = false

/-- Clones of the template are kept among the objects of any kind. -/
def ClonesApart (s : Scope) : Prop := ∀ kind, clonedKind? s.templateRef.kind = some kind →
  kind ≠ Kind.machine.name ∧ kind ≠ Kind.bootstrapConfig.name

/-! ## The items of an attempt -/

/-- A clone as it is kept, and the reference to it. -/
theorem Clones.spec {suffix : Suffix} {r : Reference} {o : Unstructured}
    (h : s.Clones suffix before r o) :
    ∃ kind name, clonedKind? s.templateRef.kind = some kind ∧
      freshName s.templateRef.name suffix = .ok name ∧
      r = ⟨s.templateRef.apiVersion, kind, some s.ns, name, some before.uid⟩ ∧
      r.Names o.kindName o.metadata := by
  obtain ⟨template, o₀, -, hclone, rfl⟩ := h.blueprint
  obtain ⟨kind, name, hkind, hname, -, hok, hon, hons⟩ := infrastructureClone_eq_ok hclone
  have hr : r = ⟨s.templateRef.apiVersion, kind, some s.ns, name, some before.uid⟩ := by
    have href := h.reference
    simp only [Unstructured.reference?, hok, Option.map_some, Memory.stamp, hon, hons,
      Option.getD_some, Option.some.injEq] at href
    exact href.symm
  refine ⟨kind, name, hkind, hname, hr, ?_⟩
  subst hr
  exact ⟨by simp [Unstructured.kindName, hok], hons.symm, hon, before.uid, rfl, rfl⟩

/-- Settings as they are kept. -/
theorem Settles.spec {suffix : Suffix} {agentConfig : AgentConfig} {c : BootstrapConfig}
    (h : s.Settles suffix agentConfig before c) :
    ∃ name, freshName s.name suffix = .ok name ∧ c.identity = ⟨s.ns, name⟩ ∧
      c.reference.Names Kind.bootstrapConfig.name c.metadata := by
  obtain ⟨c₀, hconfig, rfl⟩ := h.blueprint
  obtain ⟨name, hname, hcn, hcns⟩ := bootstrapConfig_eq_ok hconfig
  refine ⟨name, hname, ?_, rfl, rfl, ?_, before.uid, rfl, rfl⟩
  · simp [BootstrapConfig.identity, BootstrapConfig.ns, BootstrapConfig.displayName,
      Metadata.namespaceText, Metadata.displayName, Memory.stamp, hcn, hcns]
  · simp [BootstrapConfig.reference, BootstrapConfig.displayName, Metadata.displayName,
      Memory.stamp, hcn]

/-- A machine as it is kept: managed by the control plane, and tied to the
other two objects. -/
theorem Enrolls.spec {suffix : Suffix} {infrastructure bootstrap : Reference}
    {failureDomain : Option String} {m : Machine}
    (h : s.Enrolls suffix infrastructure bootstrap failureDomain before m) :
    ∃ name, freshName s.name suffix = .ok name ∧ m.identity = ⟨s.ns, name⟩ ∧
      m.spec.infrastructureRef = infrastructure ∧ m.spec.bootstrap.configRef = some bootstrap := by
  obtain ⟨m₀, hmachine, rfl⟩ := h.blueprint
  obtain ⟨name, owner, hname, -, hmetadata, hspec, -⟩ := newMachine_eq_ok hmachine
  refine ⟨name, hname, ?_, ?_, ?_⟩
  · simp [Machine.identity, Machine.name, Typed.ns, Metadata.namespaceText, Metadata.named,
      Memory.stamp, hmetadata]
  · simp [hspec]
  · simp [hspec]

theorem Clones.isNew {draws : Draws} {r : Reference} {o : Unstructured}
    (h : s.Clones draws.infrastructure before r o) (hunused : s.Unused draws before.inventory) :
    (Item.object r o).isNew before.inventory = true := by
  obtain ⟨kind, name, hkind, hname, rfl, -⟩ := h.spec
  simpa [Item.isNew, Reference.key] using hunused.infrastructure kind name hkind hname

theorem Clones.isAddressed {suffix : Suffix} {r : Reference} {o : Unstructured}
    (h : s.Clones suffix before r o) (hapart : s.ClonesApart) :
    (Item.object r o).IsAddressed := by
  obtain ⟨kind, name, hkind, -, rfl, -⟩ := h.spec
  exact hapart kind hkind

theorem Settles.isNew {draws : Draws} {agentConfig : AgentConfig} {c : BootstrapConfig}
    (h : s.Settles draws.bootstrap agentConfig before c) {inv : Inventory}
    (hunused : s.Unused draws inv) : (Item.config c).isNew inv = true := by
  obtain ⟨name, hname, hidentity, -⟩ := h.spec
  simpa [Item.isNew, hidentity] using hunused.bootstrap name hname

/-! ## All -/

/-- A successful attempt adds three new items. -/
theorem Provisions.spec {draws : Draws} {agentConfig : AgentConfig}
    {failureDomain : Option String} {m : Machine} {after : Memory}
    (h : s.Provisions draws agentConfig failureDomain before m after)
    (hunused : s.Unused draws before.inventory) :
    ∃ r o c, after.inventory =
        ((before.inventory.putObject r.key o).putConfig c).putMachine m ∧
      before.inventory.objects.contains r.key = false ∧
      before.inventory.configs.contains c.identity = false ∧
      before.inventory.machines.contains m.identity = false ∧
      after.deleted = before.deleted ∧
      m.spec.infrastructureRef = r ∧ r.Names o.kindName o.metadata ∧
      m.spec.bootstrap.configRef = some c.reference ∧
      c.reference.Names Kind.bootstrapConfig.name c.metadata := by
  obtain ⟨hclone, hsettings, hmachine⟩ := h
  rename_i r o c
  obtain ⟨_, _, -, -, -, hnames⟩ := hclone.spec
  obtain ⟨_, -, -, hconfigNames⟩ := hsettings.spec
  obtain ⟨name, hname, hidentity, hinfra, hconfig⟩ := hmachine.spec
  refine ⟨r, o, c, rfl, ?_, ?_, ?_, rfl, hinfra, hnames, hconfig, hconfigNames⟩
  · simpa [Item.isNew] using hclone.isNew hunused
  · simpa [Item.isNew] using hsettings.isNew hunused
  · rw [hidentity]
    exact hunused.machine name hname

/-! ## Nothing -/

/-- What a failed attempt leaves of the items it had `made`: those whose
deletion is told to fail. -/
def leftovers (before : Memory) (made : List Item) : List Item :=
  made.filter fun item => before.refuses item.reference

/-- How an attempt failed that had `made` some items. -/
structure Undone (before : Memory) (made : List Item) (e : Error) (after : Memory) : Prop where
  /-- The items were not there before, and they were all that was created. -/
  isNew : ∀ item ∈ made, item.isNew before.inventory = true
  created : after.created = before.created ++ made.map Item.logged
  /-- Machines are as before, and so is all else, up to what is left. -/
  machines : after.inventory.machines = before.inventory.machines
  inventory : after.inventory = before.inventory.putAll (leftovers before made)
  /-- After the clone was made, the error lists the failed creation, and then
  the clean-up exactly when something is left. -/
  error : made ≠ [] → ∃ cleanup, e = .aggregate
    (if made.length = 1 then settingsError before else machineError before) cleanup ∧
    (cleanup ≠ [] ↔ leftovers before made ≠ [])

theorem putAll_leftovers_machines {made : List Item} (h : ∀ m, Item.machine m ∉ made)
    (inv : Inventory) : (inv.putAll (leftovers before made)).machines = inv.machines := by
  induction made generalizing inv with
  | nil => rfl
  | cons a rest ih =>
    have hrest := ih fun m hm => h m (List.mem_cons_of_mem _ hm)
    rw [leftovers, List.filter_cons]
    split
    · rw [Inventory.putAll_cons, ← leftovers, hrest]
      cases a with
      | object r o => rfl
      | config c => rfl
      | machine m => exact absurd List.mem_cons_self (h m)
    · exact hrest inv

/-- What is cleared away after items were made undoes them. -/
theorem undone_of_clear (made : List Item) {cause : Error} {kept : Memory}
    (hkept : kept.inventory = before.inventory.putAll made)
    (hcreated : kept.created = before.created ++ made.map Item.logged)
    (hfaults : kept.faults = before.faults) (hcode : kept.apiCode ≠ some 404)
    (hnew : ∀ item ∈ made, item.isNew before.inventory = true)
    (haddress : ∀ item ∈ made, item.IsAddressed) (hapart : made.Pairwise Item.Apart)
    (hmachine : ∀ m, Item.machine m ∉ made)
    (hcause : cause = if made.length = 1 then settingsError before else machineError before) :
    Undone before made (.aggregate cause
      (cleanupErrors (Memory.store.clear (made.map Item.reference) kept).1))
      (Memory.store.clear (made.map Item.reference) kept).2 := by
  have hrefuses (r : Reference) : kept.refuses r = before.refuses r := by
    simp only [Memory.refuses, hfaults]
  obtain ⟨hinventory, hlog, hlength⟩ := Memory.clear_made hkept hnew haddress hapart hcode
  simp only [hrefuses] at hinventory hlength
  refine ⟨hnew, hlog.trans hcreated, ?_, hinventory, fun _ => ⟨_, by rw [hcause], ?_⟩⟩
  · rw [hinventory]
    exact putAll_leftovers_machines hmachine _
  · rw [ne_eq, cleanupErrors_eq_nil_iff, ← List.length_eq_zero_iff, hlength, leftovers,
      List.length_eq_zero_iff]

/-- A failed attempt undoes what it made. -/
theorem ProvisionFails.undone {draws : Draws} {agentConfig : AgentConfig}
    {failureDomain : Option String} {made : List Item} {e : Error} {after : Memory}
    (h : s.ProvisionFails draws agentConfig failureDomain before made (.failed e) after)
    (hunused : s.Unused draws before.inventory) (hapart : s.ClonesApart)
    (hcode : before.apiCode ≠ some 404) : Undone before made e after := by
  generalize hhalt : Halt.failed e = halt at h
  cases h with
  | clone hfails => exact ⟨by simp, by simp, rfl, by simp [leftovers], by simp⟩
  | settingsUnnamed => cases hhalt
  | machineUnnamed => cases hhalt
  | settings hclone hfault =>
    cases hhalt
    exact undone_of_clear [.object _ _] rfl rfl rfl hcode (by simpa using hclone.isNew hunused)
      (by simpa using hclone.isAddressed hapart) (by simp) (by simp) rfl
  | machine hclone hsettings hfault =>
    cases hhalt
    refine undone_of_clear [.object _ _, .config _] rfl ?_ rfl hcode ?_ ?_ ?_ (by simp) rfl
    · simp
    · simpa using ⟨hclone.isNew hunused, hsettings.isNew hunused⟩
    · simpa using ⟨hclone.isAddressed hapart, trivial⟩
    · simpa using Item.object_apart_config _ _ _

/-- An attempt without a name for some object got no further than the machine. -/
theorem ProvisionFails.machines_of_aborted {draws : Draws} {agentConfig : AgentConfig}
    {failureDomain : Option String} {made : List Item} {after : Memory}
    (h : s.ProvisionFails draws agentConfig failureDomain before made .aborted after) :
    after.inventory.machines = before.inventory.machines := by
  generalize hhalt : Halt.aborted = halt at h
  cases h with
  | clone => rfl
  | settingsUnnamed => rfl
  | machineUnnamed => rfl
  | settings => cases hhalt
  | machine => cases hhalt

/-- An attempt that was started on the store `before` added the three objects of
a new member, referring to each other as they are stored and without
deleting anything, or it was undone. -/
def AllOrNothing (before : Memory) : Except Halt Machine × Journal Memory → Prop
  | (.ok m, after) => ∃ r o c,
      after.store.inventory = ((before.inventory.putObject r.key o).putConfig c).putMachine m ∧
      before.inventory.objects.contains r.key = false ∧
      before.inventory.configs.contains c.identity = false ∧
      before.inventory.machines.contains m.identity = false ∧
      after.store.deleted = before.deleted ∧
      m.spec.infrastructureRef = r ∧ r.Names o.kindName o.metadata ∧
      m.spec.bootstrap.configRef = some c.reference ∧
      c.reference.Names Kind.bootstrapConfig.name c.metadata
  | (.error (.failed e), after) => ∃ made, Undone before made e after.store
  | (.error .aborted, after) => after.store.inventory.machines = before.inventory.machines

/-- Every attempt to create a member is all or nothing. -/
theorem provision_all_or_nothing (s : Scope) (draws : Draws) (agentConfig : AgentConfig)
    (failureDomain : Option String) (j : Journal Memory)
    (hunused : s.Unused draws j.store.inventory) (hapart : s.ClonesApart)
    (hcode : j.store.apiCode ≠ some 404) :
    AllOrNothing j.store (s.provision Memory.store draws agentConfig failureDomain j) := by
  have hends : (s.provision Memory.store draws agentConfig failureDomain).Ensures j _ _ :=
    provision_ensures
  unfold Pass.Ensures at hends
  generalize s.provision Memory.store draws agentConfig failureDomain j = ended at hends ⊢
  rcases ended with ⟨(e | _) | m, j'⟩
  · obtain ⟨⟨made, hfails⟩, -⟩ := hends
    exact ⟨made, hfails.undone hunused hapart hcode⟩
  · obtain ⟨⟨made, hfails⟩, -⟩ := hends
    exact hfails.machines_of_aborted
  · exact hends.1.spec hunused

end Scope

/-- The scope of the sample control plane before it has members. -/
def Sample.emptyScope : Scope := .ofMachines (controlPlane "cp" 1) (cluster clusterName ["az-1"]) []

/-- The sample store, told to fail in creating machines and in deleting. -/
@[irreducible]
def Sample.failing : Memory :=
  { memory ["az-1"] with faults := [.createMachine, .deleteAny] }

/-- An attempt on the failing sample store. -/
def Sample.failedAttempt : Except Halt Machine × Journal Memory :=
  emptyScope.provision Memory.store ⟨.first, .first, .first⟩ .empty none ⟨failing, []⟩

/-- Nothing is stored under the names drawn for the sample control plane. -/
theorem Sample.unused : emptyScope.Unused ⟨.first, .first, .first⟩ failing.inventory where
  infrastructure kind name hkind _ := by
    have hcloned : Scope.clonedKind? emptyScope.templateRef.kind = some "DockerMachine" := by
      decide +kernel
    obtain rfl : "DockerMachine" = kind := Option.some.inj (hcloned.symm.trans hkind)
    refine Keyed.contains_eq_false_iff.mpr fun entry hentry hkey => ?_
    have htemplate : entry.1.kind = templateKind := by
      have hall : failing.inventory.objects.toList.all (·.1.kind == templateKind) = true := by
        decide +kernel
      simpa using List.all_eq_true.mp hall entry hentry
    rw [hkey] at htemplate
    exact absurd htemplate (by decide : "DockerMachine" ≠ templateKind)
  bootstrap _ _ := Keyed.contains_of_isEmpty (by decide +kernel)
  machine _ _ := Keyed.contains_of_isEmpty (by decide +kernel)

theorem Sample.clonesApart : emptyScope.ClonesApart := by
  intro kind hkind
  have hcloned : Scope.clonedKind? emptyScope.templateRef.kind = some "DockerMachine" := by
    decide +kernel
  obtain rfl : "DockerMachine" = kind := Option.some.inj (hcloned.symm.trans hkind)
  decide

/-- When neither the machine can be created nor anything be deleted, both other
objects are left, and the error says so. -/
theorem failing_attempt_leaves_two :
    ∃ e made, Sample.failedAttempt.1 = .error (.failed e) ∧
      Scope.Undone Sample.failing made e Sample.failedAttempt.2.store ∧
      (Scope.leftovers Sample.failing made).length = 2 := by
  have hfails : Pass.hasFailed Sample.failedAttempt.1 = true := by decide +kernel
  have hbefore : Sample.failing.created.length = 0 := by decide +kernel
  have hlog : Sample.failedAttempt.2.store.created.length = 2 := by decide +kernel
  have hcode : Sample.failing.apiCode ≠ some 404 := by
    have hnone : Sample.failing.apiCode = none := by decide +kernel
    rw [hnone]
    nofun
  have hall : Scope.AllOrNothing Sample.failing Sample.failedAttempt :=
    Scope.provision_all_or_nothing Sample.emptyScope ⟨.first, .first, .first⟩ .empty none
      ⟨Sample.failing, []⟩ Sample.unused Sample.clonesApart hcode
  generalize Sample.failedAttempt = ended at hfails hlog hall ⊢
  rcases ended with ⟨(e | _) | m, j'⟩
  · obtain ⟨made, hundone⟩ := hall
    refine ⟨e, made, rfl, hundone, ?_⟩
    have hrefuses : ∀ item ∈ made, Sample.failing.refuses item.reference = true := by
      intro item _
      simp [Memory.refuses, Sample.failing]
    rw [Scope.leftovers, List.filter_eq_self.mpr hrefuses]
    have hlength := congrArg List.length hundone.created
    rw [hlog, List.length_append, List.length_map, hbefore] at hlength
    omega
  · cases hfails
  · cases hfails

end Roster
