import MeshTestbed.Config.Planning

namespace MeshTestbed

namespace Path

variable {base p : String}

end Path

def Subscriptions.mapPaths (f : String → String) (s : Subscriptions) : Subscriptions :=
  { logging := f s.logging, tracing := f s.tracing, dashboard := f s.dashboard, mesh := f s.mesh }

def Subscriptions.paths (s : Subscriptions) : List String :=
  [s.logging, s.tracing, s.dashboard, s.mesh]

def OperatorDelivery.mapPaths (f : String → String) : OperatorDelivery → OperatorDelivery
  | subscriptions s => subscriptions (s.mapPaths f)
  | manifest path => manifest (f path)

namespace Plan

variable {p : Plan} {f : String → String}

/-- Changes the manifest paths of a plan and keeps all else. -/
def mapPaths (f : String → String) (p : Plan) : Plan :=
  { p with
    operators := { p.operators with source := p.operators.source.mapPaths f }
    controlPlane := { p.controlPlane with manifest := f p.controlPlane.manifest }
    memberRoll := { p.memberRoll with manifest := f p.memberRoll.manifest }
    smoke := { p.smoke with manifest := f p.smoke.manifest } }

end Plan

namespace OperatorSettings

variable {o : OperatorSettings} {f g : String → String}

def mapPaths (f : String → String) (o : OperatorSettings) : OperatorSettings :=
  { o with
    subscriptions := o.subscriptions.map (Subscriptions.mapPaths f)
    manifest := o.manifest.map f }

def paths (o : OperatorSettings) : List String :=
  o.subscriptions.elim [] Subscriptions.paths ++ o.manifest.toList

end OperatorSettings

namespace Config

variable {c : Config} {f g : String → String} {base : String}

/-- Changes the paths of a configuration and keeps all else. -/
def mapPaths (f : String → String) (c : Config) : Config :=
  { c with
    cluster := { c.cluster with kubeconfig := c.cluster.kubeconfig.map f }
    operators := c.operators.mapPaths f
    controlPlane := { c.controlPlane with manifest := f c.controlPlane.manifest }
    memberRoll := { c.memberRoll with manifest := f c.memberRoll.manifest }
    smoke := { c.smoke with manifest := f c.smoke.manifest } }

/-- The kubeconfig and the manifests that a configuration names. -/
def paths (c : Config) : List String :=
  c.cluster.kubeconfig.toList ++ (c.operators.paths ++
    [c.controlPlane.manifest, c.memberRoll.manifest, c.smoke.manifest])

end Config

end MeshTestbed
