import MeshTestbed.Config.Basic
import MeshTestbed.Plan.Codec

namespace MeshTestbed.Config

def operatorsJson (o : OperatorSettings) : Json :=
  .obj <|
    [("namespace", .str o.ns)] ++
      Json.optional "subscriptions" Subscriptions.toJson o.subscriptions ++
      Json.optional "manifest" .str o.manifest ++
      [("grants", .arr (o.grants.map Grant.toJson)),
        ("allow_empty_namespace", .bool o.allowEmptyNamespace)]

def controlPlaneJson (s : ControlPlaneSettings) : Json :=
  .obj <|
    [("name", .str s.name), ("namespace", .str s.ns), ("kind", .str s.kind),
      ("manifest", .str s.manifest), ("condition", .str s.condition),
      ("required_status", .str s.requiredStatus)] ++
      Json.optional "required_reason" .str s.requiredReason ++
      [("member_namespaces", .strs s.members)]

def memberRollJson (s : MemberRollSettings) : Json :=
  .obj [("name", .str s.name), ("kind", .str s.kind), ("manifest", .str s.manifest),
    ("condition", .str s.condition)]

def clusterJson (t : ClusterTool) : Json :=
  .obj <|
    [("tool", .str t.program), ("flavor", .str t.flavor.text)] ++
      Json.optional "kubeconfig" .str t.kubeconfig

/-- What is not given is left out, the smoke test's container count apart. -/
def toJson (c : Config) : Json :=
  .obj <|
    [("cluster", clusterJson c.cluster), ("operators", operatorsJson c.operators),
      ("control_plane", controlPlaneJson c.controlPlane),
      ("member_roll", memberRollJson c.memberRoll), ("smoke", c.smoke.toJson),
      ("waits", c.waits.toJson),
      ("components", .arr (c.parts.map fun k => .str k.key))] ++
      Json.optional "package_audit" PackageAudit.toJson c.audit

end MeshTestbed.Config
