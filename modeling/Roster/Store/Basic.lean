/-
Roster.Store.Basic — what the control plane logic asks of the place where
objects are kept.

A store is a state with operations on it.  Every operation either answers
or fails, and leaves a state behind in both cases.  Machines of a cluster
can be listed in two ways: from a watch cache, which may be behind, and
straight from the source.  Deleting what does not exist fails with an
error for which `Error.isNotFound` holds.
-/
import Roster.Object.BootstrapConfig
import Roster.Object.Cluster
import Roster.Object.ControlPlane
import Roster.Object.Machine
import Roster.Object.Unstructured

namespace Roster

/-- An operation on a state that may fail. -/
abbrev Call (σ α : Type) := ExceptT Error (StateM σ) α

/-- The operations of a store with states in `σ`. -/
structure Store (σ : Type) where
  /-- The machines of a cluster, from the watch cache. -/
  listMachines (ns cluster : String) : Call σ (List Machine)
  /-- The machines of a cluster, from the source. -/
  listMachinesUncached (ns cluster : String) : Call σ (List Machine)
  /-- A machine by name. -/
  getMachine (ns name : String) : Call σ (Option Machine)
  /-- A cluster by name. -/
  getCluster (ns name : String) : Call σ (Option Cluster)
  /-- Any object. -/
  getObject (r : Reference) : Call σ Unstructured
  /-- Create an object of any kind; it has to say which. -/
  createObject (o : Unstructured) : Call σ Unstructured
  /-- Create the settings of a node. -/
  createBootstrapConfig (c : BootstrapConfig) : Call σ BootstrapConfig
  /-- Create a machine. -/
  createMachine (m : Machine) : Call σ Machine
  /-- Delete any object. -/
  delete (r : Reference) : Call σ Unit
  /-- Replace the status of a control plane. -/
  patchStatus (p : ControlPlane) (status : ControlPlaneStatus) : Call σ Unit

end Roster
