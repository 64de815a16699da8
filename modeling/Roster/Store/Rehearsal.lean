/-
Roster.Store.Rehearsal — a store for trying out the control plane logic:
it keeps a log of every call and fails by rules.

A rule tells which calls it is for by operation, kind and name, as far as
it mentions them; the first rule that matches decides, and may be used up
after so many matches.  Created objects are numbered: the number replaces
the suffix of the name, makes the uid, and dates machines.
-/
import Roster.Store.Inventory
import Roster.Store.Numbered

namespace Roster

/-- A call on a store. -/
inductive Request where
  | listMachines (ns cluster : String)
  | listMachinesUncached (ns cluster : String)
  | getMachine (ns name : String)
  | getCluster (ns name : String)
  | getObject (r : Reference)
  | createObject (o : Unstructured)
  | createBootstrapConfig (c : BootstrapConfig)
  | createMachine (m : Machine)
  | delete (r : Reference)
  | patchStatus (name : String) (status : ControlPlaneStatus)

namespace Request

/-- The word for the operation. -/
def operation : Request → String
  | .listMachines _ _ => "list_machines"
  | .listMachinesUncached _ _ => "list_machines_uncached"
  | .getMachine _ _ => "get_machine"
  | .getCluster _ _ => "get_cluster"
  | .getObject _ => "get_object"
  | .createObject _ => "create_object"
  | .createBootstrapConfig _ => "create_bootstrap_config"
  | .createMachine _ => "create_machine"
  | .delete _ => "delete"
  | .patchStatus _ _ => "patch_status"

/-- The kind of the object the call is about; lists are about none. -/
def kind : Request → String
  | .listMachines _ _ => ""
  | .listMachinesUncached _ _ => ""
  | .getMachine _ _ => Kind.machine.name
  | .getCluster _ _ => Kind.cluster.name
  | .getObject r => r.kind
  | .createObject o => o.kindName
  | .createBootstrapConfig _ => Kind.bootstrapConfig.name
  | .createMachine _ => Kind.machine.name
  | .delete r => r.kind
  | .patchStatus _ _ => Kind.controlPlane.name

/-- The name of the object the call is about, or of the cluster listed. -/
def name : Request → String
  | .listMachines _ cluster => cluster
  | .listMachinesUncached _ cluster => cluster
  | .getMachine _ name => name
  | .getCluster _ name => name
  | .getObject r => r.name
  | .createObject o => o.displayName
  | .createBootstrapConfig c => c.displayName
  | .createMachine m => m.name
  | .delete r => r.name
  | .patchStatus name _ => name

end Request

/-- What a rule makes of a call. -/
inductive Twist where
  /-- The call fails. -/
  | fail (e : Error)
  /-- The created object comes back without its kind. -/
  | untyped

/-- A rule for calls. -/
structure Rule where
  operation : Option String
  kind : Option String
  name : Option String
  /-- How many more matches the rule is good for, if it is limited. -/
  times : Option Nat
  twist : Twist

namespace Rule

/-- Whether a rule is for a call and not used up. -/
def applies (rule : Rule) (request : Request) : Bool :=
  rule.operation.all (· == request.operation) && rule.kind.all (· == request.kind) &&
    rule.name.all (· == request.name) && rule.times != some 0

/-- What the first rule that applies makes of a call, and the rules left. -/
def first? (request : Request) : List Rule → Option Twist × List Rule
  | [] => (none, [])
  | rule :: rest =>
    if rule.applies request then
      (some rule.twist, { rule with times := rule.times.map (· - 1) } :: rest)
    else
      let (twist, rest) := first? request rest
      (twist, rule :: rest)

end Rule

/-- A store under rehearsal. -/
structure Rehearsal where
  inventory : Inventory
  /-- What the watch cache shows, if it is pinned. -/
  pinned : Option (List Machine)
  rules : List Rule
  /-- How many creations were tried. -/
  count : Nat
  /-- The calls made and whether they went through, in order. -/
  log : List (Request × Bool)
  /-- The status written last, if any. -/
  written : Option ControlPlaneStatus

namespace Rehearsal

variable {α : Type}

/-- Log a call and let the rules decide on it. -/
def consider (request : Request) (s : Rehearsal) : Option Twist × Rehearsal :=
  let (twist, rules) := Rule.first? request s.rules
  let ok := match twist with
    | some (.fail _) => false
    | _ => true
  (twist, { s with rules := rules, log := s.log ++ [(request, ok)] })

/-- A call that goes on with `act` unless a rule makes it fail. -/
def calling (request : Request) (act : Call Rehearsal α) : Call Rehearsal α := fun s =>
  match s.consider request with
  | (some (.fail e), s) => (.error e, s)
  | (_, s) => act s

/-- The machines that the watch cache shows. -/
def cached (s : Rehearsal) : List Machine := s.pinned.getD s.inventory.machines.toList

/-- The uid of the creation of a number. -/
def uid (n : Nat) : String := "uid-" ++ String.ofList (Decimal.digits n)

/-- The moment before the first creation, to the second. -/
def epoch : Int := 1800000000

/-- Metadata as stored by the creation of a number. -/
def stamp (n : Nat) (m : Metadata) : Metadata := { m with uid := some (uid n) }

/-- Create an object of any kind. -/
def createObject (o : Unstructured) (s : Rehearsal) : Except Error Unstructured × Rehearsal :=
  let n := s.count + 1
  let o := { o with metadata := o.metadata.numbered n }
  match { s with count := n }.consider (.createObject o) with
  | (some (.fail e), s) => (.error e, s)
  | (twist, s) =>
    let o := { o with metadata := stamp n o.metadata }
    let s := { s with inventory := s.inventory.putObject o.key o }
    match twist with
    | some .untyped => (.ok { o with kind := none }, s)
    | _ => (.ok o, s)

/-- Create the settings of a node. -/
def createBootstrapConfig (c : BootstrapConfig) (s : Rehearsal) :
    Except Error BootstrapConfig × Rehearsal :=
  let n := s.count + 1
  let c := { c with metadata := c.metadata.numbered n }
  match { s with count := n }.consider (.createBootstrapConfig c) with
  | (some (.fail e), s) => (.error e, s)
  | (_, s) =>
    let c := { c with metadata := stamp n c.metadata }
    (.ok c, { s with inventory := s.inventory.putConfig c })

/-- Create a machine. -/
def createMachine (m : Machine) (s : Rehearsal) : Except Error Machine × Rehearsal :=
  let n := s.count + 1
  let m : Machine := { m with metadata := m.metadata.numbered n }
  match { s with count := n }.consider (.createMachine m) with
  | (some (.fail e), s) => (.error e, s)
  | (_, s) =>
    let m : Machine := { m with metadata := { stamp n m.metadata with
      creationTimestamp := some (.ofSeconds (epoch + n)) } }
    (.ok m, { s with inventory := s.inventory.putMachine m })

/-- The operations of a store under rehearsal. -/
def store : Store Rehearsal where
  listMachines ns cluster := calling (.listMachines ns cluster) fun s =>
    (.ok (s.cached.filter (Inventory.belongs ns cluster)), s)
  listMachinesUncached ns cluster := calling (.listMachinesUncached ns cluster) fun s =>
    (.ok (s.inventory.machinesOf ns cluster), s)
  getMachine ns name := calling (.getMachine ns name) fun s =>
    (.ok (s.inventory.machines.get? ⟨ns, name⟩), s)
  getCluster ns name := calling (.getCluster ns name) fun s =>
    (.ok (s.inventory.clusters.get? ⟨ns, name⟩), s)
  getObject r := calling (.getObject r) fun s =>
    match s.inventory.objects.lookup r.key with
    | some o => (.ok o, s)
    | none => (.error (.notFound r.kind r.name), s)
  createObject := createObject
  createBootstrapConfig := createBootstrapConfig
  createMachine := createMachine
  delete r := calling (.delete r) fun s =>
    match s.inventory.remove? r with
    | some inventory => (.ok (), { s with inventory := inventory })
    | none => (.error (.notFound r.kind r.name), s)
  patchStatus p status := calling (.patchStatus p.displayName status) fun s =>
    (.ok (), { s with written := some status })

end Rehearsal

end Roster
