import MeshTestbed.Plan.Basic

namespace MeshTestbed

def Selection.toJson (c : Selection) : Json :=
  .obj [("operators", .bool c.operators), ("control_plane", .bool c.controlPlane),
    ("smoke", .bool c.smoke)]

def Selection.ofJson? (v : Json) : Option Selection := do
  let ms ← v.fields? ["operators", "control_plane", "smoke"] []
  let operators ← Json.required ms "operators" Json.bool?
  let controlPlane ← Json.required ms "control_plane" Json.bool?
  let smoke ← Json.required ms "smoke" Json.bool?
  some { operators, controlPlane, smoke }

def Pace.toJson (p : Pace) : Json :=
  .obj [("interval", p.interval.toJson), ("timeout", p.timeout.toJson),
    ("on_timeout", .str p.onTimeout.text)]

def Pace.ofJson? (v : Json) : Option Pace := do
  let ms ← v.fields? ["interval", "timeout", "on_timeout"] []
  let interval ← Json.required ms "interval" Span.ofJson?
  let timeout ← Json.required ms "timeout" Span.ofJson?
  let onTimeout ← Json.required ms "on_timeout" (Json.choice? TimeoutResponse.ofText?)
  some ⟨interval, timeout, onTimeout⟩

def Pacing.toJson (w : Pacing) : Json :=
  .obj [("operator_pods", w.operatorPods.toJson), ("control_plane", w.controlPlane.toJson),
    ("member_roll", w.memberRoll.toJson), ("smoke", w.smoke.toJson),
    ("deletion", w.deletion.toJson)]

def Pacing.ofJson? (v : Json) : Option Pacing := do
  let ms ← v.fields? ["operator_pods", "control_plane", "member_roll", "smoke", "deletion"] []
  let operatorPods ← Json.required ms "operator_pods" Pace.ofJson?
  let controlPlane ← Json.required ms "control_plane" Pace.ofJson?
  let memberRoll ← Json.required ms "member_roll" Pace.ofJson?
  let smoke ← Json.required ms "smoke" Pace.ofJson?
  let deletion ← Json.required ms "deletion" Pace.ofJson?
  some ⟨operatorPods, controlPlane, memberRoll, smoke, deletion⟩

def Subscriptions.toJson (s : Subscriptions) : Json :=
  .obj [("logging", .str s.logging), ("tracing", .str s.tracing), ("dashboard", .str s.dashboard),
    ("mesh", .str s.mesh)]

def Subscriptions.ofJson? (v : Json) : Option Subscriptions := do
  let ms ← v.fields? ["logging", "tracing", "dashboard", "mesh"] []
  let logging ← Json.required ms "logging" Json.text?
  let tracing ← Json.required ms "tracing" Json.text?
  let dashboard ← Json.required ms "dashboard" Json.text?
  let mesh ← Json.required ms "mesh" Json.text?
  some ⟨logging, tracing, dashboard, mesh⟩

def OperatorDelivery.toJson : OperatorDelivery → Json
  | subscriptions s => .obj [("subscriptions", s.toJson)]
  | manifest path => .obj [("manifest", .str path)]

def OperatorDelivery.ofJson? : Json → Option OperatorDelivery
  | .obj [(key, v)] =>
    if key = "subscriptions" then (Subscriptions.ofJson? v).map subscriptions
    else if key = "manifest" then v.text?.map manifest
    else none
  | _ => none

def Grant.toJson (g : Grant) : Json :=
  .obj [("service_account", .str g.serviceAccount), ("namespace", .str g.ns)]

def Grant.ofJson? (v : Json) : Option Grant := do
  let ms ← v.fields? ["service_account", "namespace"] []
  let serviceAccount ← Json.required ms "service_account" Json.text?
  let ns ← Json.required ms "namespace" Json.text?
  some ⟨serviceAccount, ns⟩

def Operators.toJson (o : Operators) : Json :=
  .obj [("namespace", .str o.ns), ("source", o.source.toJson),
    ("grants", .arr (o.grants.map Grant.toJson)),
    ("allow_empty_namespace", .bool o.allowEmptyNamespace)]

def Operators.ofJson? (v : Json) : Option Operators := do
  let ms ← v.fields? ["namespace", "source"] ["grants", "allow_empty_namespace"]
  let ns ← Json.required ms "namespace" Json.text?
  let source ← Json.required ms "source" OperatorDelivery.ofJson?
  let grants ← Json.defaulted ms "grants" [] (Json.list? Grant.ofJson?)
  let allowEmptyNamespace ← Json.defaulted ms "allow_empty_namespace" false Json.bool?
  some { ns, source, grants, allowEmptyNamespace }

def ControlPlane.toJson (c : ControlPlane) : Json :=
  .obj [("name", .str c.name), ("namespace", .str c.ns), ("kind", .str c.kind),
    ("manifest", .str c.manifest), ("installed", c.installed.toJson)]

def ControlPlane.ofJson? (v : Json) : Option ControlPlane := do
  let ms ← v.fields? ["name", "namespace", "kind", "manifest", "installed"] []
  let name ← Json.required ms "name" Json.text?
  let ns ← Json.required ms "namespace" Json.text?
  let kind ← Json.required ms "kind" Json.text?
  let manifest ← Json.required ms "manifest" Json.text?
  let installed ← Json.required ms "installed" ConditionDemand.ofJson?
  some ⟨name, ns, kind, manifest, installed⟩

def MemberRoll.toJson (m : MemberRoll) : Json :=
  .obj [("name", .str m.name), ("kind", .str m.kind), ("manifest", .str m.manifest),
    ("ready", m.ready.toJson)]

def MemberRoll.ofJson? (v : Json) : Option MemberRoll := do
  let ms ← v.fields? ["name", "kind", "manifest", "ready"] []
  let name ← Json.required ms "name" Json.text?
  let kind ← Json.required ms "kind" Json.text?
  let manifest ← Json.required ms "manifest" Json.text?
  let ready ← Json.required ms "ready" ConditionDemand.ofJson?
  some ⟨name, kind, manifest, ready⟩

def SmokeTest.toJson (s : SmokeTest) : Json :=
  .obj [("namespace", .str s.ns), ("manifest", .str s.manifest),
    ("expected_containers", Json.ofOption (fun n => .nat n.toNat) s.expectedContainers)]

def SmokeTest.ofJson? (v : Json) : Option SmokeTest := do
  let ms ← v.fields? ["namespace", "manifest", "expected_containers"] []
  let ns ← Json.required ms "namespace" Json.text?
  let manifest ← Json.required ms "manifest" Json.text?
  let expectedContainers ← Json.nullable ms "expected_containers" Json.uint32?
  some ⟨ns, manifest, expectedContainers⟩

def PackageAudit.toJson (a : PackageAudit) : Json :=
  .obj [("pod_filter", .str a.podFilter), ("package_filter", .str a.packageFilter)]

def PackageAudit.ofJson? (v : Json) : Option PackageAudit := do
  let ms ← v.fields? ["pod_filter", "package_filter"] []
  let podFilter ← Json.required ms "pod_filter" Json.text?
  let packageFilter ← Json.required ms "package_filter" Json.text?
  some ⟨podFilter, packageFilter⟩

def Plan.toJson (p : Plan) : Json :=
  .obj <|
    [("operators", p.operators.toJson), ("control_plane", p.controlPlane.toJson),
      ("member_roll", p.memberRoll.toJson), ("member_namespaces", .strs p.members.toList),
      ("smoke", p.smoke.toJson), ("components", p.selection.toJson),
      ("waits", p.waits.toJson)] ++
      Json.optional "package_audit" PackageAudit.toJson p.audit

def Plan.ofJson? (v : Json) : Option Plan := do
  let ms ← v.fields?
    ["operators", "control_plane", "member_roll", "member_namespaces", "smoke", "components",
      "waits"] ["package_audit"]
  let operators ← Json.required ms "operators" Operators.ofJson?
  let controlPlane ← Json.required ms "control_plane" ControlPlane.ofJson?
  let memberRoll ← Json.required ms "member_roll" MemberRoll.ofJson?
  let members ← Json.required ms "member_namespaces" Json.texts?
  let smoke ← Json.required ms "smoke" SmokeTest.ofJson?
  let selection ← Json.required ms "components" Selection.ofJson?
  let waits ← Json.required ms "waits" Pacing.ofJson?
  let audit ← Json.nullable ms "package_audit" PackageAudit.ofJson?
  some
    { operators, controlPlane, memberRoll, members := .ofList members, smoke, selection, waits
      audit }

end MeshTestbed
