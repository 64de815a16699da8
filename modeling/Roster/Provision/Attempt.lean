/-
Roster.Provision.Attempt — creating the objects of a new member, all or
none.

The infrastructure object, the settings of the node and the machine are
created in this order.  When one of the later two cannot be created, what
was created before is deleted again, and the error lists the failure and
then what went wrong while cleaning up.
-/
import Roster.Provision.Blueprint

namespace Roster

variable {σ : Type}

/-- Delete the objects of a failed attempt.  One that is gone already is
fine; every other failure is kept while the rest is still deleted. -/
def removeEach (store : Store σ) : List Reference → Pass σ (List Error)
  | [] => return []
  | r :: rest => do
    let deleted ← Pass.attempt (Pass.call (store.delete r))
    let failures ← removeEach store rest
    match deleted with
    | .ok () => return failures
    | .error e =>
      if e.isNotFound then return failures
      else return e.wrap "failed to cleanup generated resources after error" :: failures

/-- Delete objects, failing afterwards if some could not be deleted. -/
def removeAll (store : Store σ) (refs : List Reference) : Pass σ Unit := do
  match Error.ofList? (← removeEach store refs) with
  | some e => Pass.fail e
  | none => return ()

namespace Scope

/-- Clone the infrastructure template of the control plane. -/
def cloneInfrastructure (s : Scope) (store : Store σ) (suffix : Suffix) : Pass σ Reference := do
  let templateRef := s.controlPlane.spec.infrastructureRef.within s.ns
  let template ← Pass.call (store.getObject templateRef)
  let clone ← Pass.decided (s.infrastructureClone suffix templateRef template)
  let created ← Pass.call (store.createObject clone)
  match created.reference? with
  | some r => return r
  | none => Pass.fail (.internal "provisioner" "created infrastructure object has no type")

/-- Create the settings of a new member's node. -/
def createBootstrapConfig (s : Scope) (store : Store σ) (suffix : Suffix)
    (agentConfig : AgentConfig) : Pass σ Reference := do
  let config ← Pass.decided (s.bootstrapConfig suffix agentConfig)
  let created ← Pass.inContext "failed to create bootstrap configuration"
    (Pass.call (store.createBootstrapConfig config))
  return created.reference

/-- Create the machine of a new member. -/
def createMachine (s : Scope) (store : Store σ) (suffix : Suffix)
    (infrastructure bootstrap : Reference) (failureDomain : Option String) : Pass σ Machine := do
  let machine ← Pass.decided (s.newMachine suffix infrastructure bootstrap failureDomain)
  Pass.inContext "failed to create machine" (Pass.call (store.createMachine machine))

/-- Undo a failed attempt and fail with what went wrong. -/
def rollBack (store : Store σ) (created : List Reference) (cause : Error) : Pass σ Machine := do
  match ← Pass.attempt (removeAll store created) with
  | .ok () => Pass.fail (.aggregate cause [])
  | .error e =>
    Pass.fail (.aggregate cause [e.wrap "failed to cleanup generated resources"])

/-- Create a new member. -/
def provision (s : Scope) (store : Store σ) (draws : Draws) (agentConfig : AgentConfig)
    (failureDomain : Option String) : Pass σ Machine := do
  let infrastructure ← Pass.inContext "failed to clone infrastructure template"
    (s.cloneInfrastructure store draws.infrastructure)
  match ← Pass.attempt (s.createBootstrapConfig store draws.bootstrap agentConfig) with
  | .error e =>
    rollBack store [infrastructure] (e.wrap "failed to generate bootstrap config")
  | .ok bootstrap =>
    match ← Pass.attempt
      (s.createMachine store draws.machine infrastructure bootstrap failureDomain) with
    | .ok machine => return machine
    | .error e =>
      rollBack store [infrastructure, bootstrap] (e.wrap "failed to create Machine")

end Scope

end Roster
