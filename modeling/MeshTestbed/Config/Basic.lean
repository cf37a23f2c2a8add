import MeshTestbed.Command.ClusterTool
import MeshTestbed.Config.Waits
import MeshTestbed.Path

namespace MeshTestbed

structure OperatorSettings where
  ns : String := "openshift-operators"
  subscriptions : Option Subscriptions := none
  manifest : Option String := none
  grants : List Grant := []
  allowEmptyNamespace : Bool := false
deriving DecidableEq

structure ControlPlaneSettings where
  name : String := "basic"
  ns : String := "istio-system"
  kind : String := "ServiceMeshControlPlane"
  manifest : String := "smcp.yaml"
  condition : String := "Installed"
  requiredStatus : String := "True"
  requiredReason : Option String := none
  members : List String := ["bookinfo"]
deriving DecidableEq

structure MemberRollSettings where
  name : String := "default"
  kind : String := "ServiceMeshMemberRoll"
  manifest : String := "smmr.yaml"
  condition : String := "Ready"
deriving DecidableEq

structure Config where
  cluster : ClusterTool := {}
  operators : OperatorSettings := {}
  controlPlane : ControlPlaneSettings := {}
  memberRoll : MemberRollSettings := {}
  smoke : SmokeTest := Plan.standard.smoke
  waits : WaitChanges := {}
  parts : List Part := []
  audit : Option PackageAudit := none
deriving DecidableEq

namespace Config

/-- Selects parts; selecting none keeps those of the configuration. -/
def selecting (parts : List Part) (c : Config) : Config :=
  if parts.isEmpty then c else { c with parts }

def usingKubeconfig (path : String) (c : Config) : Config :=
  { c with cluster := { c.cluster with kubeconfig := some path } }

def subscriptionsRelativeTo (base : String) (s : Subscriptions) : Subscriptions :=
  { logging := Path.resolve base s.logging
    tracing := Path.resolve base s.tracing
    dashboard := Path.resolve base s.dashboard
    mesh := Path.resolve base s.mesh }

/-- Makes relative paths relative to `base`. Where no source of the operators is given, the
standard subscriptions are filled in first. -/
def relativeTo (base : String) (c : Config) : Config :=
  let o := c.operators
  let subscriptions :=
    if o.manifest.isNone ∧ o.subscriptions.isNone then some Subscriptions.standard
    else o.subscriptions
  { c with
    cluster := { c.cluster with kubeconfig := c.cluster.kubeconfig.map (Path.resolve base) }
    operators :=
      { o with
        subscriptions := subscriptions.map (subscriptionsRelativeTo base)
        manifest := o.manifest.map (Path.resolve base) }
    controlPlane :=
      { c.controlPlane with manifest := Path.resolve base c.controlPlane.manifest }
    memberRoll := { c.memberRoll with manifest := Path.resolve base c.memberRoll.manifest }
    smoke := { c.smoke with manifest := Path.resolve base c.smoke.manifest } }

end Config

end MeshTestbed
