/-
Roster.Store.Memory — a store that keeps its objects in memory and fails
where it is told to.

The watch cache shows what is stored, unless it is pinned to a list of
machines.  Every created object gets a uid counted up by the store; what
was created and deleted is remembered in order.
-/
import Roster.Decimal.Digits
import Roster.Store.Inventory

namespace Roster

/-- A call that is to fail. -/
inductive Fault where
  | createObject
  | createBootstrapConfig
  | createMachine
  | listUncached
  /-- Deleting the object of a name. -/
  | delete (name : String)
  /-- Deleting anything. -/
  | deleteAny
  deriving DecidableEq, Repr

/-- A fault in words. -/
def Fault.word : Fault → String
  | .createObject => "CreateObject"
  | .createBootstrapConfig => "CreateBootstrapConfig"
  | .createMachine => "CreateMachine"
  | .listUncached => "ListUncached"
  | .delete name => "Delete(" ++ Text.quoted name ++ ")"
  | .deleteAny => "DeleteAny"

/-- The faults that concern no object by name. -/
def Fault.plain : List Fault :=
  [.createObject, .createBootstrapConfig, .createMachine, .listUncached, .deleteAny]

/-- The fault that a word calls for: that of a deletion is followed by a colon
and the name. -/
def Fault.read? (word : String) : Option Fault :=
  match Text.splitFirst? ':' word.toList with
  | some (operation, name) =>
    if String.ofList operation = "Delete" then some (.delete (String.ofList name)) else none
  | none => Fault.plain.find? fun fault => fault.word == word

/-- A store in memory. -/
structure Memory where
  inventory : Inventory
  /-- What the watch cache shows, if it is pinned. -/
  pinned : Option (List Machine)
  /-- The calls that fail. -/
  faults : List Fault
  /-- The code of the API server's answer to them, if it is the one to fail. -/
  apiCode : Option UInt16
  /-- What was created, in order. -/
  created : List Reference
  /-- What was deleted, in order. -/
  deleted : List Reference
  /-- The statuses written, in order. -/
  statuses : List ControlPlaneStatus
  /-- How many uids were handed out. -/
  uids : Nat

namespace Memory

/-- A store without objects and faults. -/
def empty : Memory := ⟨.empty, none, [], none, [], [], [], 0⟩

/-- The reason that goes with a code. -/
def apiReason (code : UInt16) : String :=
  if code = 409 then "Conflict" else if code = 429 then "TooManyRequests" else "InternalError"

/-- The failure that the API server reports with a code. -/
def apiError (code : UInt16) : Error :=
  .api ⟨"Failure", "injected status " ++ String.ofList (Decimal.digits code.toNat),
    apiReason code, code⟩

/-- The error of a call that is told to fail. -/
def faultError (s : Memory) (f : Fault) : Error :=
  match s.apiCode with
  | some code => apiError code
  | none => .internal "store" ("injected " ++ f.word ++ " failure")

/-- The error of a call, if it is told to fail. -/
def fault? (s : Memory) (f : Fault) : Option Error :=
  if f ∈ s.faults then some (s.faultError f) else none

/-- Hand out a uid. -/
def nextUid (s : Memory) : String × Memory :=
  ("uid-" ++ String.ofList (Decimal.digits (s.uids + 1)), { s with uids := s.uids + 1 })

/-- The machines that the watch cache shows. -/
def cached (s : Memory) : List Machine := s.pinned.getD s.inventory.machines.toList

/-- Store an object of any kind. -/
def createObject (o : Unstructured) (s : Memory) : Except Error Unstructured × Memory :=
  match s.fault? .createObject with
  | some e => (.error e, s)
  | none =>
    let (uid, s) := s.nextUid
    let o := { o with metadata := { o.metadata with uid := some uid } }
    match o.reference? with
    | none => (.error (.serialization "object to create has no apiVersion/kind" none), s)
    | some r =>
      (.ok o, { s with
        inventory := s.inventory.putObject r.key o
        created := s.created ++ [r] })

/-- Store the settings of a node. -/
def createBootstrapConfig (c : BootstrapConfig) (s : Memory) :
    Except Error BootstrapConfig × Memory :=
  match s.fault? .createBootstrapConfig with
  | some e => (.error e, s)
  | none =>
    let (uid, s) := s.nextUid
    let c := { c with metadata := { c.metadata with uid := some uid } }
    (.ok c, { s with
      inventory := s.inventory.putConfig c
      created := s.created ++ [{ c.reference with ns := some c.ns, uid := none }] })

/-- Store a machine. -/
def createMachine (m : Machine) (s : Memory) : Except Error Machine × Memory :=
  match s.fault? .createMachine with
  | some e => (.error e, s)
  | none =>
    let (uid, s) := s.nextUid
    let m : Machine := { m with metadata := { m.metadata with uid := some uid } }
    (.ok m, { s with
      inventory := s.inventory.putMachine m
      created := s.created ++ [m.reference] })

/-- Delete an object. -/
def delete (r : Reference) (s : Memory) : Except Error Unit × Memory :=
  match (s.fault? (.delete r.name)).or (s.fault? .deleteAny) with
  | some e => (.error e, s)
  | none =>
    match s.inventory.remove? r with
    | none => (.error (.notFound r.kind r.name), s)
    | some inventory => (.ok (), { s with
        inventory := inventory
        deleted := s.deleted ++ [r] })

/-- The operations of a store in memory. -/
def store : Store Memory where
  listMachines ns cluster := fun s => (.ok (s.cached.filter (Inventory.belongs ns cluster)), s)
  listMachinesUncached ns cluster := fun s =>
    match s.fault? .listUncached with
    | some e => (.error e, s)
    | none => (.ok (s.inventory.machinesOf ns cluster), s)
  getMachine ns name := fun s => (.ok (s.inventory.machines.get? ⟨ns, name⟩), s)
  getCluster ns name := fun s => (.ok (s.inventory.clusters.get? ⟨ns, name⟩), s)
  getObject r := fun s =>
    match s.inventory.objects.lookup r.key with
    | some o => (.ok o, s)
    | none => (.error (.notFound r.kind r.name), s)
  createObject := createObject
  createBootstrapConfig := createBootstrapConfig
  createMachine := createMachine
  delete := delete
  patchStatus _ status := fun s => (.ok (), { s with statuses := s.statuses ++ [status] })

end Memory

end Roster
