/-
Roster.Transcript — what happens to a control plane, as JSON values.

Errors are written with their wording and both classifications, machines
by their identities.  Everything else is written field by field.
-/
import Roster.Http
import Roster.Log
import Roster.Preflight
import Roster.Status
import Roster.Store.Memory
import Roster.Store.Rehearsal

namespace Roster.Transcript

/-! ## Errors -/

/-- The entries that errors of all kinds have. -/
def classification (e : Error) : List (String × Json) :=
  always "message" (.text e.message) ++ always "retryable" (.bool e.isRetryable) ++
    always "notFound" (.bool e.isNotFound)

/-- An error of a kind, with its entries. -/
def kindOfError (kind : String) (entries : List (String × Json)) (e : Error) : Json :=
  .object (always "error" (.text kind) ++ entries ++ classification e)

mutual

/-- An error. -/
def error : Error → Json
  | .unreadable => kindOfError "Unreadable" [] .unreadable
  | .unsendable fault => kindOfError "Kube" [] (.unsendable fault)
  | .api s => kindOfError "Kube" [("code", .nat s.code.toNat), ("reason", .text s.reason),
      ("status", .text s.status)] (.api s)
  | .validation resource message field => kindOfError "Validation"
      [("resource", .text resource), ("field", Json.ofOption .text field)]
      (.validation resource message field)
  | .serialization message kind => kindOfError "Serialization"
      [("kind", Json.ofOption .text kind)] (.serialization message kind)
  | .notFound kind name => kindOfError "NotFound"
      [("kind", .text kind), ("name", .text name)] (.notFound kind name)
  | .conditionCheck kind name condition detail => kindOfError "ConditionCheck"
      [("kind", .text kind), ("name", .text name), ("condition", .text condition),
        ("detail", .text detail)] (.conditionCheck kind name condition detail)
  | .invariant context message => kindOfError "Invariant"
      [("context", .text context)] (.invariant context message)
  | .internal context message => kindOfError "Internal"
      [("context", .text context)] (.internal context message)
  | .wrapped message source => kindOfError "Wrapped"
      [("source", error source)] (.wrapped message source)
  | .aggregate first others => kindOfError "Aggregate"
      [("len", .nat (others.length + 1)), ("errors", .list (error first :: errors others))]
      (.aggregate first others)

/-- The errors of a list. -/
def errors : List Error → List Json
  | [] => []
  | e :: es => error e :: errors es

end

/-- How an operation ended. -/
def result (encode : α → Json) : Except Error α → Json
  | .ok a => .object (always "ok" (encode a))
  | .error e => .object (always "failed" (error e))

/-! ## Kinds and machines -/

/-- A kind of object. -/
def kind (k : Kind) : Json :=
  .object [("group", .text k.group), ("version", .text k.version),
    ("apiVersion", .text k.apiVersion), ("kind", .text k.name), ("plural", .text k.plural)]

/-- A machine by its identity. -/
def machine (m : Machine) : Json := .text m.identity.text

/-- Machines by their identities. -/
def machines (ms : List Machine) : Json := .list (ms.map machine)

/-- Counts by name. -/
def counts (d : Dict Nat) : Json := .object (d.toList.map fun (name, n) => (name, .nat n))

/-! ## Steps -/

/-- A number of milliseconds; in words if it takes more than 64 bits. -/
def milliseconds (ms : Nat) : Json :=
  if ms ≤ 18446744073709551615 then .nat ms else .text (String.ofList (Decimal.digits ms))

/-- How long to wait. -/
def backoff (b : Backoff) : Json :=
  .object [("deleteMs", milliseconds b.deletion), ("preflightMs", milliseconds b.unhealthy),
    ("soonMs", milliseconds b.soon), ("errorMs", milliseconds b.failure)]

/-- How a step ended. -/
def outcome : Outcome → Json
  | .done => .text "Done"
  | .soon => .text "RequeueSoon"
  | .after ms => .object [("requeueAfterMs", milliseconds ms)]

/-- When a control plane is to be looked at again. -/
def action : Action → Json
  | .await => .text "await"
  | .requeue ms => .object [("requeueMs", milliseconds ms)]

/-- How a pass ended, and what a failure means for the next one. -/
def pass (b : Backoff) : Except Error Action → Json
  | .ok a => .object [("action", action a)]
  | .error e => .object [("failed", error e), ("policy", action (e.action b))]

/-- A step. -/
def plan : Plan → Json
  | .found => .text "Initialize"
  | .grow => .text "ScaleUp"
  | .stable => .text "Stable"
  | .shrink rollout => .object [("scaleDown", .object [("rollout", .bool rollout)])]

/-- What a check found. -/
def preflight (p : Preflight) : Json :=
  let blocking := always "blocking" (Json.ofOption outcome p.blocking)
  match p with
  | .passed => .object (always "passed" (.bool true) ++ blocking)
  | .waitingForDeletion names ms => .object (always "waitingForDeletion" (Json.texts names) ++
      always "requeueMs" (milliseconds ms) ++ blocking)
  | .unhealthy first others ms => .object (
      always "unhealthy" (.list (errors (first :: others))) ++
      always "text" (.text (Preflight.faultText first others)) ++
      always "requeueMs" (milliseconds ms) ++ blocking)

/-- A machine, or why there is none. -/
def choice : Except Error Machine → Json
  | .ok m => machine m
  | .error e => error e

/-- What decisions about a control plane go by, and what they would be if a
machine of `among` had to go. -/
def scope (s : Scope) (among : Members) : Json :=
  .object [("name", .text s.name), ("namespace", .text s.ns),
    ("clusterName", .text s.clusterName), ("members", machines s.members.toList),
    ("desired", .nat s.desired), ("domains", Json.texts s.domains),
    ("nextDomain", Json.ofOption .text s.nextDomain),
    ("mostDomain", Json.ofOption .text (s.crowdedDomain among)), ("pick", choice (s.pick among)),
    ("deleteAnnotated", machines (Scope.marked among).toList),
    ("needRollout", machines s.outdated.toList), ("upToDate", machines s.current.toList),
    ("plan", plan s.plan)]

/-! ## Reports -/

/-- A report. -/
def event (e : Event) : Json :=
  .object [("type", .text e.type), ("reason", .text e.reason), ("action", .text e.action),
    ("note", Json.ofOption .text e.note), ("regarding", e.subject.encode)]

/-- A report in short. -/
def brief (e : Event) : Json :=
  .object [("warning", .bool e.warning), ("reason", .text e.reason),
    ("note", Json.ofOption .text e.note)]

/-! ## Calls and requests -/

/-- What a call is about. -/
def details : Request → List (String × Json)
  | .listMachines ns cluster => [("namespace", .text ns), ("cluster", .text cluster)]
  | .listMachinesUncached ns cluster => [("namespace", .text ns), ("cluster", .text cluster)]
  | .getMachine ns name => [("namespace", .text ns), ("name", .text name)]
  | .getCluster ns name => [("namespace", .text ns), ("name", .text name)]
  | .getObject r => [("ref", r.encode)]
  | .createObject o => [("object", o.encode)]
  | .createBootstrapConfig c => [("object", c.encode)]
  | .createMachine m => [("object", m.encode)]
  | .delete r => [("ref", r.encode)]
  | .patchStatus name status => [("name", .text name), ("status", status.encode)]

/-- A call on a store, and whether it went through. -/
def call (c : Request × Bool) : Json :=
  .object (always "call" (.text c.1.operation) ++ always "ok" (.bool c.2) ++ details c.1)

/-- A request to the API server. -/
def request (r : Http.Request) : Json :=
  .object [("method", .text r.method.word), ("path", .text r.target.path),
    ("query", Json.texts r.target.parameters),
    ("contentType", Json.ofOption (fun p => .text p.contentType) r.payload),
    ("body", (r.payload.map (·.content)).getD (.text ""))]

/-! ## Stores -/

/-- A machine in a listing: where it is, and what runs on it. -/
def machineRow (m : Machine) : Json :=
  .list [.text m.ns, .text m.name, Json.ofOption .text m.failureDomain,
    Json.ofOption .text m.spec.version]

/-- The objects other than machines and clusters in an inventory, in words. -/
def objectLines (inv : Inventory) : List String :=
  (inv.objects.toList.map fun (key, _) => key.kind ++ " " ++ key.ns ++ "/" ++ key.name) ++
    inv.configs.toList.map fun c =>
      Kind.bootstrapConfig.name ++ " " ++ c.ns ++ "/" ++ c.displayName

/-- What a store in memory holds and remembers. -/
def memory (s : Memory) : List (String × Json) :=
  [("created", .list (s.created.map Reference.encode)),
    ("createdMachines",
      Json.texts ((s.created.filter fun r => r.kind == Kind.machine.name).map (·.name))),
    ("deleted", .list (s.deleted.map Reference.encode)),
    ("machines", Json.texts s.inventory.machines.names),
    ("objectCount", .nat (s.inventory.objects.size + s.inventory.configs.size)),
    ("statuses", .nat s.statuses.length)]

/-! ## Fixed words -/

/-- The words and times that others rely on. -/
def constants : Json :=
  .object [("clusterNameLabel", .text Labels.clusterName),
    ("controlPlaneLabel", .text Labels.controlPlane),
    ("deleteAnnotation", .text Labels.deleteMachine),
    ("serverConfigAnnotation", .text Labels.serverConfiguration),
    ("clonedFromName", .text Labels.clonedFromName),
    ("clonedFromGroupKind", .text Labels.clonedFromGroupKind),
    ("fieldManager", .text Labels.fieldManager),
    ("conditions", Json.texts [agentHealthy, Condition.available, Condition.resized]),
    ("required", Json.texts requiredConditions), ("config", backoff .usual),
    ("logFilter", .text Log.usualFilter), ("logFormat", .text LogFormat.usual.word),
    ("service", .text Log.service)]

end Roster.Transcript
