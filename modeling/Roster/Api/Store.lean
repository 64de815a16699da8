/-
Roster.Api.Store — the store behind the API server.

Machines are listed from a watch cache, whose filter stands for the
label selector that the listing from the source sends.  A request that
cannot be made fails without being sent.
-/
import Roster.Api.Answer
import Roster.Api.Path
import Roster.Labels
import Roster.Members.Basic
import Roster.Store.Basic

namespace Roster.Api

variable {τ α : Type}

/-! ## The watch cache -/

/-- What a watch tells machines apart by: their identity, and whether they
have a namespace at all. -/
structure WatchKey where
  identity : Identity
  /-- Whether there is a namespace, be it empty. -/
  placed : Bool
  deriving DecidableEq, Repr

/-- By identity, then those without a namespace first. -/
instance : Ord WatchKey := ⟨compareLex (compareOn WatchKey.identity) (compareOn WatchKey.placed)⟩

instance : Std.TransOrd WatchKey :=
  inferInstanceAs
    (Std.TransCmp (compareLex (compareOn WatchKey.identity) (compareOn WatchKey.placed)))

/-- What a watch knows a machine by. -/
def watchKey (m : Machine) : WatchKey := ⟨m.identity, m.metadata.ns.isSome⟩

/-- The machines a watch saw last. -/
abbrev Watched := Keyed watchKey

/-- A transport and what the watch on machines has seen. -/
structure Server (τ : Type) where
  transport : τ
  cache : Watched

namespace Watched

/-- A machine as the watch saw it last; a watch cannot take in a machine
without a name. -/
def applied? (cache : Watched) (m : Machine) : Option Watched :=
  if m.metadata.name.isSome then some (cache.insert m) else none

/-- A machine the watch saw go. -/
def deleted? (cache : Watched) (m : Machine) : Option Watched :=
  if m.metadata.name.isSome then some (cache.erase (watchKey m)) else none

/-- What a watch saw of machines in order. -/
def ofList? (ms : List Machine) : Option Watched := ms.foldlM applied? .empty

end Watched

/-- Whether a machine is a control plane member of a cluster by its
namespace and labels. -/
def isMemberOf (ns cluster : String) (m : Machine) : Bool :=
  m.ns == ns && m.metadata.label? Labels.clusterName == some cluster &&
    (m.metadata.label? Labels.controlPlane).isSome

/-! ## Requests -/

/-- A request with a target. -/
def request (method : Http.Method) (target : String) (payload : Option Http.Payload) :
    Except RequestFault Http.Request :=
  match Http.Target.read target with
  | .ok target => .ok ⟨method, target, payload⟩
  | .error fault => .error (.target fault)

/-- A request for what is kept at a path. -/
def getting (path : String) : Except RequestFault Http.Request := request .get path none

/-- A request for what is kept at a path and has certain labels. -/
def selecting (path selector : String) : Except RequestFault Http.Request :=
  request .get (Http.targetText path [("labelSelector", selector)]) none

/-- A request to keep something under a path. -/
def posting (path : String) (content : Json) : Except RequestFault Http.Request :=
  request .post (Http.targetText path []) (some ⟨"application/json", content⟩)

/-- A request to merge something into what is kept at a path. -/
def merging (path : String) (parameters : List (String × String)) (content : Json) :
    Except RequestFault Http.Request :=
  request .patch (Http.targetText path parameters)
    (some ⟨"application/merge-patch+json", content⟩)

/-- A request to delete what is kept at a path, and then in the background
what depends on it. -/
def deleting (path : String) : Except RequestFault Http.Request :=
  request .delete (Http.targetText path []) (some ⟨"application/json",
    .object [("propagationPolicy", .text "Background")]⟩)

/-- Send a request, if it can be made, and read the response. -/
def send (transport : Http.Transport τ) (request : Except RequestFault Http.Request)
    (read : Http.Response → Except Error α) : Call (Server τ) α := fun server =>
  match request with
  | .error fault => (.error (.unsendable fault), server)
  | .ok request =>
    match transport request server.transport with
    | (response, next) => (read response, { server with transport := next })

/-! ## The store -/

/-- The operations of the store behind the API server. -/
def store (transport : Http.Transport τ) : Store (Server τ) where
  listMachines ns cluster := fun server =>
    (.ok (server.cache.toList.filter (isMemberOf ns cluster)), server)
  listMachinesUncached ns cluster :=
    send transport (selecting (listPath Kind.machine (some ns)) (Labels.memberSelector cluster))
      (read (decodeList (Machine.decodeWithin listNesting)))
  getMachine ns name :=
    send transport (objectPath Kind.machine (some ns) name >>= getting)
      (readOptional Machine.decode)
  getCluster ns name :=
    send transport (objectPath Kind.cluster (some ns) name >>= getting)
      (readOptional Cluster.decode)
  getObject r :=
    send transport (referencePath r >>= getting) fun response =>
      (read Unstructured.decode response).mapError (located r)
  createObject o :=
    match o.kind with
    | none => fun server =>
      (.error (.serialization "object to create has no apiVersion/kind" none), server)
    | some kind =>
      send transport (posting (listPath kind o.metadata.ns) o.encode) (read Unstructured.decode)
  createBootstrapConfig c :=
    send transport (posting (listPath Kind.bootstrapConfig (some c.ns)) c.encode)
      (read BootstrapConfig.decode)
  createMachine m :=
    send transport (posting (listPath Kind.machine (some m.ns)) m.encode) (read Machine.decode)
  delete r :=
    send transport (referencePath r >>= deleting) fun response =>
      (read decodeDeletion response).mapError (located r)
  patchStatus p status :=
    send transport
      (do
        let path ← objectPath Kind.controlPlane (some p.ns) p.displayName
        merging (path ++ "/status") [("fieldManager", Labels.fieldManager)]
          (.object [("status", status.encode)]))
      fun response => (read ControlPlane.decode response).map fun _ => ()

end Roster.Api
