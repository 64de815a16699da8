/-
Roster.Sample — a small cluster to try things out on: a control plane,
machines of it, healthy ones and others, their cluster, and the template they
come from.
-/
import Roster.Preflight
import Roster.Provision.Blueprint
import Roster.Store.Memory

namespace Roster.Sample

/-- The namespace of everything. -/
def namespaceName : String := "default"

/-- The name of the cluster. -/
def clusterName : String := "prod"

/-- The uid of the cluster. -/
def clusterUid : String := "cluster-uid"

/-- The uid of the control plane. -/
def controlPlaneUid : String := "rcp-uid"

/-- The release that runs. -/
def release : String := "v1.29.4+rke2r1"

/-- The API version of the objects behind machines. -/
def infrastructureVersion : String := "infrastructure.cluster.x-k8s.io/v1beta1"

/-- The kind of the template. -/
def templateKind : String := "DockerMachineTemplate"

/-- The name of the template. -/
def templateName : String := "cp-template"

/-- A control plane that belongs to the cluster. -/
def controlPlane (name : String) (replicas : Int32) : ControlPlane where
  metadata := { Metadata.named name with
    ns := some namespaceName
    uid := some controlPlaneUid
    generation := some 1
    ownerReferences := some
      [⟨Kind.cluster.apiVersion, none, none, Kind.cluster.name, clusterName, clusterUid⟩] }
  spec := {
    replicas := some replicas
    version := release
    agentConfig := .empty
    serverConfig := .empty
    infrastructureRef :=
      ⟨infrastructureVersion, templateKind, some namespaceName, templateName, none⟩
    nodeDrainTimeout := none }
  status := none

/-- The moment from which the age of machines counts back, in seconds since
the start of 1970. -/
def epoch : Int := 1700000000

/-- When a machine of an age in seconds was created, unless that is too far
away. -/
def birth? (age : Int) : Option Instant :=
  let t := Instant.ofSeconds (epoch - age)
  if t.inRange then some t else none

/-- A machine of a control plane, created at `birth`, as specified and healthy
since `now`. -/
def machine (now : Instant) (p : ControlPlane) (name : String) (domain : Option String)
    (birth : Instant) : Machine where
  metadata := { Metadata.named name with
    ns := some namespaceName
    uid := some (name ++ "-uid")
    labels := some (Labels.ofMember clusterName)
    annotations := some (.ofList [(Labels.serverConfiguration, p.spec.serverConfig.snapshot)])
    ownerReferences := (p.ownerReference? true).map fun r => [r]
    creationTimestamp := some birth }
  spec := {
    clusterName := clusterName
    bootstrap := .empty
    infrastructureRef :=
      ⟨infrastructureVersion, "DockerMachine", some namespaceName, name ++ "-infra", none⟩
    version := some (Release.version p.spec.version)
    failureDomain := domain
    nodeDrainTimeout := none }
  status := some ⟨some "Running", [.holding now agentHealthy]⟩

/-- A machine with other conditions. -/
def withConditions (m : Machine) (conditions : List Condition) : Machine :=
  { m with status := some { (m.status.getD ⟨none, []⟩) with conditions := conditions } }

/-- Members of unlike state: one as specified and healthy, one of another version,
one that is not healthy, and two that are being deleted, the second of them of
another version as well. -/
def assorted (p : ControlPlane) : List Machine :=
  let now := Instant.ofSeconds epoch
  let member (name : String) : Machine := machine now p name (some "az-1") now
  let old (m : Machine) : Machine := { m with spec := { m.spec with version := some "v1.28.0" } }
  let leaving (m : Machine) : Machine :=
    { m with metadata := { m.metadata with deletionTimestamp := some now } }
  let silent : Condition :=
    .failing now agentHealthy "AgentSilent" .warning "the agent does not answer"
  [member "cp-a", old (member "cp-b"), withConditions (member "cp-c") [silent],
    leaving (member "cp-d"), old (leaving (member "cp-e"))]

/-- A cluster with failure domains that all take members. -/
def cluster (name : String) (domains : List String) : Cluster where
  metadata := { Metadata.named name with ns := some namespaceName, uid := some clusterUid }
  spec := .empty
  status := some ⟨.ofList (domains.map fun id => (id, ⟨true, .empty⟩)), some "Provisioned"⟩

/-- The template of the machines. -/
def template : Unstructured where
  kind := some ⟨infrastructureVersion, templateKind⟩
  metadata := { Metadata.named templateName with
    ns := some namespaceName, uid := some "template-uid" }
  data := .ofList [("spec", .object [("template", .object [
    ("metadata", .object [
      ("annotations", .object [("example.com/owner", .text "platform")]),
      ("labels", .object [("tier", .text "control-plane")])]),
    ("spec", .object [("customImage", .text "kindest/node:v1.29.4")])])])]

/-- A store with the cluster and the template. -/
def memory (domains : List String) : Memory :=
  { Memory.empty with
    inventory := (Inventory.empty.putCluster (cluster clusterName domains)).putObject
      template.key template }

/-- A store with members of unlike state. -/
@[irreducible]
def assortment (p : ControlPlane) : Memory :=
  { memory ["az-1"] with
    inventory := (assorted p).foldl Inventory.putMachine (memory ["az-1"]).inventory }

end Roster.Sample
