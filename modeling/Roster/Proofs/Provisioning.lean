/-
Roster.Proofs.Provisioning — what an attempt to create a member does to a
store in memory.

`provision_ensures` is the full account: an attempt that succeeds kept
three items in turn, each made from its blueprint; one that fails ended in
one of the ways that `ProvisionFails` lists.
-/
import Roster.Proofs.Blueprint
import Roster.Proofs.Cleanup
import Mathlib.Tactic.Common

namespace Roster.Scope

variable {s : Scope} {before : Memory}

/-- The reference to the template of the control plane. -/
def templateRef (s : Scope) : Reference := s.controlPlane.spec.infrastructureRef.within s.ns

/-! ## The three objects as kept -/

/-- `o` is what a store keeps of a clone of the template, and `r` refers to it. -/
structure Clones (s : Scope) (suffix : Suffix) (before : Memory) (r : Reference)
    (o : Unstructured) : Prop where
  allowed : .createObject ∉ before.faults
  blueprint : ∃ template o₀, before.inventory.objects.lookup s.templateRef.key = some template ∧
    s.infrastructureClone suffix s.templateRef template = .ok o₀ ∧
    o = { o₀ with metadata := before.stamp o₀.metadata }
  reference : o.reference? = some r

/-- `c` is what a store keeps of the settings of a new member's node. -/
structure Settles (s : Scope) (suffix : Suffix) (agentConfig : AgentConfig) (before : Memory)
    (c : BootstrapConfig) : Prop where
  allowed : .createBootstrapConfig ∉ before.faults
  blueprint : ∃ c₀, s.bootstrapConfig suffix agentConfig = .ok c₀ ∧
    c = { c₀ with metadata := before.stamp c₀.metadata }

/-- `m` is what a store keeps of the machine of a new member. -/
structure Enrolls (s : Scope) (suffix : Suffix) (infrastructure bootstrap : Reference)
    (failureDomain : Option String) (before : Memory) (m : Machine) : Prop where
  allowed : .createMachine ∉ before.faults
  blueprint : ∃ m₀, s.newMachine suffix infrastructure bootstrap failureDomain = .ok m₀ ∧
    m = { m₀ with metadata := before.stamp m₀.metadata }

theorem Clones.isNamed {suffix : Suffix} {r : Reference} {o : Unstructured}
    (h : s.Clones suffix before r o) : s.IsNamed := by
  obtain ⟨template, o₀, -, hclone, -⟩ := h.blueprint
  obtain ⟨_, _, -, -, hnamed, -⟩ := infrastructureClone_eq_ok hclone
  exact hnamed

/-! ## The three steps -/

/-- How cloning the template fails. -/
inductive CloneFails (s : Scope) (suffix : Suffix) (before : Memory) : Halt → Prop where
  | noTemplate (h : before.inventory.objects.lookup s.templateRef.key = none) :
    CloneFails s suffix before (.failed (.notFound s.templateRef.kind s.templateRef.name))
  | noBlueprint {template : Unstructured} {halt : Halt}
      (htemplate : before.inventory.objects.lookup s.templateRef.key = some template)
      (h : s.infrastructureClone suffix s.templateRef template = .error halt) :
    CloneFails s suffix before halt
  | refused {template o : Unstructured} (h : .createObject ∈ before.faults)
      (htemplate : before.inventory.objects.lookup s.templateRef.key = some template)
      (hclone : s.infrastructureClone suffix s.templateRef template = .ok o) :
    CloneFails s suffix before (.failed (before.faultError .createObject))

theorem cloneInfrastructure_eq {σ : Type} (store : Store σ) (suffix : Suffix) :
    s.cloneInfrastructure store suffix = (do
      let template ← Pass.call (store.getObject s.templateRef)
      let clone ← Pass.decided (s.infrastructureClone suffix s.templateRef template)
      let created ← Pass.call (store.createObject clone)
      match created.reference? with
      | some r => return r
      | none => Pass.fail (.internal "provisioner" "created infrastructure object has no type")) :=
  rfl

theorem cloneInfrastructure_ensures {suffix : Suffix} {j : Journal Memory} :
    (s.cloneInfrastructure Memory.store suffix).Ensures j
      (fun r j' => ∃ o, s.Clones suffix j.store r o ∧
        j' = { j with store := j.store.keep (.object r o) })
      fun halt j' => s.CloneFails suffix j.store halt ∧ j' = j := by
  rw [cloneInfrastructure_eq, Pass.ensures_bind, Pass.ensures_call, Memory.getObject_eq]
  cases hlookup : j.store.inventory.objects.lookup s.templateRef.key with
  | none => exact ⟨.noTemplate hlookup, rfl⟩
  | some template =>
    dsimp only
    rw [Pass.ensures_bind, Pass.ensures_decided]
    cases hclone : s.infrastructureClone suffix s.templateRef template with
    | error halt => exact ⟨.noBlueprint hlookup hclone, rfl⟩
    | ok o₀ =>
      obtain ⟨kind, name, -, -, -, hkind, -⟩ := infrastructureClone_eq_ok hclone
      obtain ⟨r, hr⟩ : ∃ r, Unstructured.reference?
          { o₀ with metadata := j.store.stamp o₀.metadata } = some r := by
        simp [Unstructured.reference?, hkind]
      dsimp only
      rw [Pass.ensures_bind, Pass.ensures_call, Memory.createObject_eq hr]
      by_cases hfault : Fault.createObject ∈ j.store.faults
      · rw [if_pos hfault]
        exact ⟨.refused hfault hlookup hclone, rfl⟩
      · rw [if_neg hfault]
        dsimp only
        rw [hr]
        exact ⟨_, ⟨hfault, ⟨template, o₀, hlookup, hclone, rfl⟩, hr⟩, rfl⟩

/-- After the clone was made, settings fail for want of a name, or as told. -/
theorem createBootstrapConfig_ensures {suffix : Suffix} {agentConfig : AgentConfig}
    {j : Journal Memory} (hnamed : s.IsNamed) :
    (s.createBootstrapConfig Memory.store suffix agentConfig).Ensures j
      (fun b j' => ∃ c, s.Settles suffix agentConfig j.store c ∧ b = c.reference ∧
        j' = { j with store := j.store.keep (.config c) })
      fun halt j' => j' = j ∧
        (halt = .aborted ∧ s.bootstrapConfig suffix agentConfig = .error .aborted ∨
          .createBootstrapConfig ∈ j.store.faults ∧
            halt = .failed ((j.store.faultError .createBootstrapConfig).wrap
              "failed to create bootstrap configuration")) := by
  unfold createBootstrapConfig
  rw [Pass.ensures_bind, Pass.ensures_decided]
  cases hconfig : s.bootstrapConfig suffix agentConfig with
  | error halt =>
    obtain rfl := eq_aborted_of_bootstrapConfig hnamed hconfig
    exact ⟨rfl, .inl ⟨rfl, rfl⟩⟩
  | ok c₀ =>
    dsimp only
    rw [Pass.ensures_bind, Pass.ensures_inContext, Pass.ensures_call,
      Memory.createBootstrapConfig_eq]
    by_cases hfault : Fault.createBootstrapConfig ∈ j.store.faults
    · rw [if_pos hfault]
      exact ⟨rfl, .inr ⟨hfault, rfl⟩⟩
    · rw [if_neg hfault]
      exact ⟨_, ⟨hfault, c₀, hconfig, rfl⟩, rfl, rfl⟩

theorem createMachine_ensures {suffix : Suffix} {infrastructure bootstrap : Reference}
    {failureDomain : Option String} {j : Journal Memory} (hnamed : s.IsNamed) :
    (s.createMachine Memory.store suffix infrastructure bootstrap failureDomain).Ensures j
      (fun m j' => s.Enrolls suffix infrastructure bootstrap failureDomain j.store m ∧
        j' = { j with store := j.store.keep (.machine m) })
      fun halt j' => j' = j ∧
        (halt = .aborted ∧
            s.newMachine suffix infrastructure bootstrap failureDomain = .error .aborted ∨
          .createMachine ∈ j.store.faults ∧
            halt = .failed ((j.store.faultError .createMachine).wrap
              "failed to create machine")) := by
  unfold createMachine
  rw [Pass.ensures_bind, Pass.ensures_decided]
  cases hmachine : s.newMachine suffix infrastructure bootstrap failureDomain with
  | error halt =>
    obtain rfl := eq_aborted_of_newMachine hnamed hmachine
    exact ⟨rfl, .inl ⟨rfl, rfl⟩⟩
  | ok m₀ =>
    dsimp only
    rw [Pass.ensures_inContext, Pass.ensures_call, Memory.createMachine_eq]
    by_cases hfault : Fault.createMachine ∈ j.store.faults
    · rw [if_pos hfault]
      exact ⟨rfl, .inr ⟨hfault, rfl⟩⟩
    · rw [if_neg hfault]
      exact ⟨⟨hfault, m₀, hmachine, rfl⟩, rfl⟩

/-! ## The attempt -/

/-- The failure of an attempt whose settings were refused. -/
def settingsError (before : Memory) : Error :=
  ((before.faultError .createBootstrapConfig).wrap
    "failed to create bootstrap configuration").wrap "failed to generate bootstrap config"

/-- The failure of an attempt whose machine was refused. -/
def machineError (before : Memory) : Error :=
  ((before.faultError .createMachine).wrap "failed to create machine").wrap
    "failed to create Machine"

/-- How an attempt fails: why, and what store it leaves.  `made` is what was
kept until then. -/
inductive ProvisionFails (s : Scope) (draws : Draws) (agentConfig : AgentConfig)
    (failureDomain : Option String) (before : Memory) :
    (made : List Item) → Halt → Memory → Prop where
  /-- The clone could not be made. -/
  | clone {halt : Halt} (h : s.CloneFails draws.infrastructure before halt) :
    ProvisionFails s draws agentConfig failureDomain before []
      (halt.inContext "failed to clone infrastructure template") before
  /-- There was no name for the settings. -/
  | settingsUnnamed {r : Reference} {o : Unstructured}
      (clone : s.Clones draws.infrastructure before r o)
      (h : s.bootstrapConfig draws.bootstrap agentConfig = .error .aborted) :
    ProvisionFails s draws agentConfig failureDomain before [.object r o] .aborted
      (before.keep (.object r o))
  /-- The settings were refused. -/
  | settings {r : Reference} {o : Unstructured}
      (clone : s.Clones draws.infrastructure before r o)
      (h : .createBootstrapConfig ∈ before.faults) :
    ProvisionFails s draws agentConfig failureDomain before [.object r o]
      (.failed (.aggregate (settingsError before)
        (cleanupErrors (Memory.store.clear [r] (before.keep (.object r o))).1)))
      (Memory.store.clear [r] (before.keep (.object r o))).2
  /-- There was no name for the machine. -/
  | machineUnnamed {r : Reference} {o : Unstructured} {c : BootstrapConfig}
      (clone : s.Clones draws.infrastructure before r o)
      (settings : s.Settles draws.bootstrap agentConfig (before.keep (.object r o)) c)
      (h : s.newMachine draws.machine r c.reference failureDomain = .error .aborted) :
    ProvisionFails s draws agentConfig failureDomain before [.object r o, .config c] .aborted
      ((before.keep (.object r o)).keep (.config c))
  /-- The machine was refused. -/
  | machine {r : Reference} {o : Unstructured} {c : BootstrapConfig}
      (clone : s.Clones draws.infrastructure before r o)
      (settings : s.Settles draws.bootstrap agentConfig (before.keep (.object r o)) c)
      (h : .createMachine ∈ before.faults) :
    ProvisionFails s draws agentConfig failureDomain before [.object r o, .config c]
      (.failed (.aggregate (machineError before) (cleanupErrors (Memory.store.clear
        [r, c.reference] ((before.keep (.object r o)).keep (.config c))).1)))
      (Memory.store.clear [r, c.reference] ((before.keep (.object r o)).keep (.config c))).2

/-- How an attempt succeeds: with a machine, and all three items kept. -/
inductive Provisions (s : Scope) (draws : Draws) (agentConfig : AgentConfig)
    (failureDomain : Option String) (before : Memory) : Machine → Memory → Prop where
  | intro {r : Reference} {o : Unstructured} {c : BootstrapConfig} {m : Machine}
      (clone : s.Clones draws.infrastructure before r o)
      (settings : s.Settles draws.bootstrap agentConfig (before.keep (.object r o)) c)
      (machine : s.Enrolls draws.machine r c.reference failureDomain
        ((before.keep (.object r o)).keep (.config c)) m) :
    Provisions s draws agentConfig failureDomain before m
      (((before.keep (.object r o)).keep (.config c)).keep (.machine m))

/-- How attempts end. -/
theorem provision_ensures {draws : Draws} {agentConfig : AgentConfig}
    {failureDomain : Option String} {j : Journal Memory} :
    (s.provision Memory.store draws agentConfig failureDomain).Ensures j
      (fun m j' => s.Provisions draws agentConfig failureDomain j.store m j'.store ∧
        j'.events = j.events)
      fun halt j' =>
        (∃ made,
          s.ProvisionFails draws agentConfig failureDomain j.store made halt j'.store) ∧
        j'.events = j.events := by
  unfold provision
  rw [Pass.ensures_bind, Pass.ensures_inContext]
  refine cloneInfrastructure_ensures.mono ?_ ?_
  · rintro r j₁ ⟨o, hclone, rfl⟩
    rw [Pass.ensures_bind, Pass.ensures_attempt]
    refine (createBootstrapConfig_ensures hclone.isNamed).mono ?_ ?_
    · rintro b j₂ ⟨c, hsettings, rfl, rfl⟩
      dsimp only
      rw [Pass.ensures_bind, Pass.ensures_attempt]
      refine (createMachine_ensures hclone.isNamed).mono ?_ ?_
      · rintro m j₃ ⟨hmachine, rfl⟩
        exact ⟨.intro hclone hsettings hmachine, rfl⟩
      · rintro halt j₃ ⟨rfl, ⟨rfl, hname⟩ | ⟨hfault, rfl⟩⟩
        · exact ⟨⟨_, .machineUnnamed hclone hsettings hname⟩, rfl⟩
        · dsimp only
          rw [ensures_rollBack]
          exact ⟨⟨_, .machine hclone hsettings hfault⟩, rfl⟩
    · rintro halt j₂ ⟨rfl, ⟨rfl, hname⟩ | ⟨hfault, rfl⟩⟩
      · exact ⟨⟨_, .settingsUnnamed hclone hname⟩, rfl⟩
      · dsimp only
        rw [ensures_rollBack]
        exact ⟨⟨_, .settings hclone hfault⟩, rfl⟩
  · rintro halt j₁ ⟨hfails, rfl⟩
    exact ⟨⟨_, .clone hfails⟩, rfl⟩

end Roster.Scope
