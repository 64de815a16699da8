/-
Roster.Labels — the labels and annotations that tie machines to their
cluster, and the selector that finds them again.
-/
import Roster.Keyed

namespace Roster.Labels

/-- The label that names the cluster an object belongs to. -/
def clusterName : String := "cluster.x-k8s.io/cluster-name"

/-- The label that marks the members of a control plane. -/
def controlPlane : String := "cluster.x-k8s.io/control-plane"

/-- The annotation that asks for a machine to be removed first. -/
def deleteMachine : String := "cluster.x-k8s.io/delete-machine"

/-- The annotation that keeps the server settings a machine was made from. -/
def serverConfiguration : String := "controlplane.cluster.x-k8s.io/rke2-server-configuration"

/-- The annotation that names the template an object was cloned from. -/
def clonedFromName : String := "cluster.x-k8s.io/cloned-from-name"

/-- The annotation with kind and group of the template an object was cloned
from. -/
def clonedFromGroupKind : String := "cluster.x-k8s.io/cloned-from-groupkind"

/-- The name under which the controller writes fields of objects. -/
def fieldManager : String := "rke2-control-plane-controller"

/-- The labels of the members of a cluster's control plane and of what is
made for them. -/
def ofMember (cluster : String) : Dict String :=
  .ofList [(clusterName, cluster), (controlPlane, "")]

/-- The selector for those labels. -/
def memberSelector (cluster : String) : String :=
  clusterName ++ "=" ++ cluster ++ "," ++ controlPlane

end Roster.Labels
