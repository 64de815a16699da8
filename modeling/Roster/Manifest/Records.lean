/-
Roster.Manifest.Records — the schemas of the records that objects are made
of.
-/
import Roster.Manifest.Schema
import Roster.Object.Configuration

namespace Roster.Manifest

open Schema

/-- A list of texts. -/
def texts : Schema := listOf text

/-- A reference to an object. -/
def reference : Schema := record [
  required "apiVersion" "API version of the referenced object (e.g. \"infrastructure.cluster.x-k8s.io/v1beta1\")" text,
  required "kind" "Kind of the referenced object" text,
  optional "namespace" "Namespace of the referenced object" text,
  required "name" "Name of the referenced object" text,
  optional "uid" "UID, when the object has been created" text]

/-- A condition. -/
def condition : Schema := (record [
  required "type" "Type of condition (e.g., AgentHealthy)" text,
  required "status" "Status of the condition (True, False, Unknown)"
    (word ["True", "False", "Unknown"]),
  optional "severity" "Severity, only meaningful when status is False"
    (word ["Error", "Warning", "Info"]),
  optional "reason" "Machine-readable reason for the condition" text,
  optional "message" "Human-readable message" text,
  optional "lastTransitionTime" "Last time the condition transitioned" time]).about
    "Cluster API style condition\n\nUnlike plain Kubernetes conditions these carry a severity, and reason and message are optional (a True condition usually has neither)."

/-- The settings of an agent. -/
def agentConfig : Schema := record [
  loose "nodeLabels" "Labels registered on the node (\x60key=value\x60)" texts,
  loose "nodeTaints" "Taints registered on the node (\x60key=value:effect\x60)" texts,
  loose "kubeletArgs" "Extra kubelet arguments" texts,
  loose "kubeProxyArgs" "Extra kube-proxy arguments" texts,
  optional "containerRuntimeEndpoint" "External container runtime socket" text,
  optional "cisProfile" "CIS profile to validate the node against" text,
  loose "selinux" "Enable SELinux in containerd" flag,
  loose "protectKernelDefaults"
    "Refuse to start if kernel tunables differ from kubelet defaults" flag]

/-- The disabled parts of a server. -/
def disabledComponents : Schema := record [
  loose "kubernetesComponents" "Core Kubernetes components (e.g. \"scheduler\")" texts,
  loose "pluginComponents" "Packaged plugins (e.g. \"rke2-ingress-nginx\")" texts]

/-- The backups of the embedded store. -/
def backupConfig : Schema := record [
  optional "scheduleCronSpec" "Cron schedule for snapshots" text,
  optional "retention" "Number of snapshots to keep" text,
  optional "directory" "Directory snapshots are written to" text]

/-- The settings of the embedded store. -/
def etcdConfig : Schema := record [
  loose "exposeMetrics" "Expose etcd metrics on all interfaces" flag,
  defaulted "backupConfig" "Snapshot settings" BackupConfig.empty.encode backupConfig,
  loose "customConfig" "Extra etcd arguments" (mapOf text)]

/-- The settings of a server. -/
def serverConfig : Schema := record [
  loose "tlsSan" "Additional subject alternative names on the API server certificate" texts,
  optional "cni" "CNI plugin to deploy (e.g. \"canal\", \"cilium\", \"none\")" text,
  optional "clusterDomain" "Cluster DNS domain" text,
  optional "cloudProviderName"
    "Cloud provider name passed to the kubelet and controller manager" text,
  defaulted "disableComponents" "Components RKE2 should not deploy"
    DisabledComponents.empty.encode disabledComponents,
  defaulted "etcd" "Embedded etcd settings" EtcdConfig.empty.encode etcdConfig]

/-- The specification of a control plane. -/
def controlPlaneSpec : Schema := (record [
  optional "replicas" "Desired number of control plane Machines (defaults to 1)" int32,
  required "version" "RKE2 release to run (e.g. \"v1.29.4+rke2r1\")" text,
  defaulted "agentConfig" "Agent configuration copied into each member's bootstrap config"
    AgentConfig.empty.encode agentConfig,
  defaulted "serverConfig" "Server configuration shared by every control plane member"
    ServerConfig.empty.encode serverConfig,
  required "infrastructureRef" "Infrastructure machine template cloned for each new member"
    reference,
  optional "nodeDrainTimeout"
    "How long to wait for a node to drain before deleting its Machine" text]).about
    "Specification for an RKE2ControlPlane"

/-- The status of a control plane. -/
def controlPlaneStatus : Schema := (record [
  optional "observedGeneration"
    "The generation of the spec last processed by the controller" int64,
  defaulted "replicas" "Number of control plane Machines owned by this control plane" (.nat 0)
    int32,
  defaulted "updatedReplicas" "Number of Machines matching the current spec" (.nat 0) int32,
  defaulted "readyReplicas" "Number of Machines whose agent reports healthy" (.nat 0) int32,
  defaulted "unavailableReplicas" "Number of Machines not yet healthy" (.nat 0) int32,
  defaulted "initialized" "Whether the first control plane member has come up" (.bool false) flag,
  defaulted "ready" "Whether at least one member is healthy" (.bool false) flag,
  loose "conditions" "Conditions representing the control plane state" (listOf condition)]).about
    "Observed state of an RKE2ControlPlane"

/-- The specification of the settings of a node. -/
def bootstrapSpec : Schema := (record [
  defaulted "agentConfig" "Agent settings for the node this config bootstraps"
    AgentConfig.empty.encode agentConfig]).about "Specification of an RKE2Config"

/-- The source of a machine's first settings. -/
def bootstrap : Schema := record [
  optional "configRef" "Bootstrap config object (e.g. an RKE2Config)" reference,
  optional "dataSecretName" "Secret holding rendered bootstrap data" text]

/-- The specification of a machine. -/
def machineSpec : Schema := (record [
  required "clusterName" "Name of the Cluster API cluster this Machine belongs to" text,
  defaulted "bootstrap" "Bootstrap configuration reference" .emptyObject bootstrap,
  required "infrastructureRef" "Infrastructure object backing this Machine" reference,
  optional "version" "Kubernetes version the node runs" text,
  optional "failureDomain" "Failure domain the Machine is placed in" text,
  optional "nodeDrainTimeout" "How long to wait for the node to drain on deletion" text]).about
    "Specification of a Cluster API Machine"

/-- The status of a machine. -/
def machineStatus : Schema := (record [
  optional "phase" "Lifecycle phase reported by Cluster API" text,
  loose "conditions" "Health conditions, populated by external health reporters"
    (listOf condition)]).about "Observed state of a Machine"

/-- The specification of a cluster. -/
def clusterSpec : Schema := (record [
  loose "paused" "Reconciliation of this cluster is paused" flag,
  optional "controlPlaneRef" "Control plane provider object" reference,
  optional "infrastructureRef" "Infrastructure provider object" reference]).about
    "Specification of a Cluster API Cluster"

/-- A failure domain. -/
def failureDomain : Schema := (record [
  defaulted "controlPlane" "Control plane Machines may be placed here" (.bool false) flag,
  loose "attributes" "Provider-specific attributes" (mapOf text)]).about
    "A failure domain and whether control plane Machines may use it"

/-- The status of a cluster. -/
def clusterStatus : Schema := (record [
  loose "failureDomains"
    "Failure domains reported by the infrastructure provider, keyed by id"
    (mapOf failureDomain),
  optional "phase" "Lifecycle phase" text]).about "Observed state of a Cluster"

end Roster.Manifest
