/-
Roster.Store.Inventory — the objects that a store in memory holds.
-/
import Roster.Members.Basic
import Roster.Store.Basic

namespace Roster

/-- What tells objects of any kind apart. -/
structure ObjectKey where
  kind : String
  ns : String
  name : String
  deriving DecidableEq, Repr

/-- By kind, then by namespace, then by name. -/
instance : Ord ObjectKey :=
  ⟨compareLex (compareOn ObjectKey.kind)
    (compareLex (compareOn ObjectKey.ns) (compareOn ObjectKey.name))⟩

instance : Std.TransOrd ObjectKey :=
  inferInstanceAs (Std.TransCmp (compareLex (compareOn ObjectKey.kind)
    (compareLex (compareOn ObjectKey.ns) (compareOn ObjectKey.name))))

/-- The key of the object a reference names. -/
def Reference.key (r : Reference) : ObjectKey := ⟨r.kind, r.ns.getD "", r.name⟩

/-- The key an object is known by; an object that is still to be named goes by
the stem of its name. -/
def Unstructured.key (o : Unstructured) : ObjectKey := ⟨o.kindName, o.ns, o.displayName⟩

/-- What tells clusters apart. -/
def Cluster.identity (c : Cluster) : Identity := ⟨c.ns, c.displayName⟩

/-- What tells the settings of nodes apart. -/
def BootstrapConfig.identity (c : BootstrapConfig) : Identity := ⟨c.ns, c.displayName⟩

/-- The identity a reference names within its kind. -/
def Reference.identity (r : Reference) : Identity := ⟨r.ns.getD "", r.name⟩

/-- The objects that a store holds. -/
structure Inventory where
  machines : Members
  clusters : Keyed Cluster.identity
  configs : Keyed BootstrapConfig.identity
  /-- Objects of all other kinds. -/
  objects : Table ObjectKey Unstructured

namespace Inventory

/-- An inventory without objects. -/
def empty : Inventory := ⟨.empty, .empty, .empty, .empty⟩

/-- Put a machine. -/
def putMachine (inv : Inventory) (m : Machine) : Inventory :=
  { inv with machines := inv.machines.insert m }

/-- Put a cluster. -/
def putCluster (inv : Inventory) (c : Cluster) : Inventory :=
  { inv with clusters := inv.clusters.insert c }

/-- Put the settings of a node. -/
def putConfig (inv : Inventory) (c : BootstrapConfig) : Inventory :=
  { inv with configs := inv.configs.insert c }

/-- Put an object of any other kind under a key. -/
def putObject (inv : Inventory) (key : ObjectKey) (o : Unstructured) : Inventory :=
  { inv with objects := inv.objects.put key o }

/-- Remove the machines of a name, in all namespaces. -/
def dropMachines (inv : Inventory) (name : String) : Inventory :=
  { inv with machines := inv.machines.filter fun m => m.name != name }

/-- Remove the objects of a name that have no type of their own. -/
def dropObjects (inv : Inventory) (name : String) : Inventory :=
  { inv with objects := inv.objects.filter fun entry => entry.1.name != name }

/-- Whether a machine is in a namespace and names a cluster. -/
def belongs (ns cluster : String) (m : Machine) : Bool :=
  m.ns == ns && m.spec.clusterName == cluster

/-- The machines of a cluster. -/
def machinesOf (inv : Inventory) (ns cluster : String) : List Machine :=
  inv.machines.toList.filter (belongs ns cluster)

/-- Remove the object a reference names, by its kind; nothing when there is
none. -/
def remove? (inv : Inventory) (r : Reference) : Option Inventory :=
  if r.kind = Kind.machine.name then
    if inv.machines.contains r.identity then
      some { inv with machines := inv.machines.erase r.identity }
    else none
  else if r.kind = Kind.bootstrapConfig.name then
    if inv.configs.contains r.identity then
      some { inv with configs := inv.configs.erase r.identity }
    else none
  else if inv.objects.contains r.key then
    some { inv with objects := inv.objects.erase r.key }
  else none

end Inventory

end Roster
