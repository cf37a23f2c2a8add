import MeshTestbed.Config.Basic
import MeshTestbed.Error
import MeshTestbed.Yaml.Decode

/-!
Configurations as documents. A key that the layout does not know is refused, except inside grants
and subscriptions, where it is passed over.
-/

namespace MeshTestbed.Config

open Yaml (Document Node)

def waitOverride? (d : Document) (n : Node) : Option WaitChange := do
  let fs ← d.strict? ["interval_secs", "timeout_secs", "on_timeout"] n
  let interval ← d.field fs "interval_secs" none (Document.optional? Document.uint64?)
  let timeout ← d.field fs "timeout_secs" none (Document.optional? Document.uint64?)
  let onTimeout ← d.field fs "on_timeout" none <|
    Document.optional? (Document.choice? TimeoutResponse.ofText?)
  some { interval, timeout, onTimeout }

def waitOverrides? (d : Document) (n : Node) : Option WaitChanges := do
  let fs ← d.strict? ["operator_pods", "control_plane", "member_roll", "smoke", "deletion"] n
  let operatorPods ← d.field fs "operator_pods" {} waitOverride?
  let controlPlane ← d.field fs "control_plane" {} waitOverride?
  let memberRoll ← d.field fs "member_roll" {} waitOverride?
  let smoke ← d.field fs "smoke" {} waitOverride?
  let deletion ← d.field fs "deletion" {} waitOverride?
  some { operatorPods, controlPlane, memberRoll, smoke, deletion }

def cluster? (d : Document) (n : Node) : Option ClusterTool := do
  let fs ← d.strict? ["tool", "flavor", "kubeconfig"] n
  let standard : ClusterTool := {}
  let program ← d.field fs "tool" standard.program Document.text?
  let flavor ← d.field fs "flavor" standard.flavor (Document.choice? Flavor.ofText?)
  let kubeconfig ← d.field fs "kubeconfig" none (Document.optional? Document.text?)
  some { program, flavor, kubeconfig }

def subscriptions? (d : Document) (n : Node) : Option Subscriptions := do
  let fs ← d.known? ["logging", "tracing", "dashboard", "mesh"] n
  let logging ← d.required fs "logging" Document.text?
  let tracing ← d.required fs "tracing" Document.text?
  let dashboard ← d.required fs "dashboard" Document.text?
  let mesh ← d.required fs "mesh" Document.text?
  some { logging, tracing, dashboard, mesh }

def grant? (d : Document) (n : Node) : Option Grant := do
  let fs ← d.known? ["service_account", "namespace"] n
  let serviceAccount ← d.required fs "service_account" Document.text?
  let ns ← d.required fs "namespace" Document.text?
  some { serviceAccount, ns }

def operators? (d : Document) (n : Node) : Option OperatorSettings := do
  let fs ← d.strict? ["namespace", "subscriptions", "manifest", "grants", "allow_empty_namespace"] n
  let standard : OperatorSettings := {}
  let ns ← d.field fs "namespace" standard.ns Document.text?
  let subscriptions ← d.field fs "subscriptions" none (Document.optional? subscriptions?)
  let manifest ← d.field fs "manifest" none (Document.optional? Document.text?)
  let grants ← d.field fs "grants" [] (Document.list? grant?)
  let allowEmptyNamespace ← d.field fs "allow_empty_namespace" false Document.bool?
  some { ns, subscriptions, manifest, grants, allowEmptyNamespace }

def controlPlane? (d : Document) (n : Node) : Option ControlPlaneSettings := do
  let fs ← d.strict?
    ["name", "namespace", "kind", "manifest", "condition", "required_status", "required_reason",
      "member_namespaces"] n
  let standard : ControlPlaneSettings := {}
  let name ← d.field fs "name" standard.name Document.text?
  let ns ← d.field fs "namespace" standard.ns Document.text?
  let kind ← d.field fs "kind" standard.kind Document.text?
  let manifest ← d.field fs "manifest" standard.manifest Document.text?
  let condition ← d.field fs "condition" standard.condition Document.text?
  let requiredStatus ← d.field fs "required_status" standard.requiredStatus Document.text?
  let requiredReason ← d.field fs "required_reason" none (Document.optional? Document.text?)
  let members ← d.field fs "member_namespaces" standard.members (Document.list? Document.text?)
  some { name, ns, kind, manifest, condition, requiredStatus, requiredReason, members }

def memberRoll? (d : Document) (n : Node) : Option MemberRollSettings := do
  let fs ← d.strict? ["name", "kind", "manifest", "condition"] n
  let standard : MemberRollSettings := {}
  let name ← d.field fs "name" standard.name Document.text?
  let kind ← d.field fs "kind" standard.kind Document.text?
  let manifest ← d.field fs "manifest" standard.manifest Document.text?
  let condition ← d.field fs "condition" standard.condition Document.text?
  some { name, kind, manifest, condition }

def smoke? (d : Document) (n : Node) : Option SmokeTest := do
  let fs ← d.strict? ["namespace", "manifest", "expected_containers"] n
  let standard := Plan.standard.smoke
  let ns ← d.field fs "namespace" standard.ns Document.text?
  let manifest ← d.field fs "manifest" standard.manifest Document.text?
  let expectedContainers ← d.field fs "expected_containers" standard.expectedContainers <|
    Document.optional? Document.uint32?
  some { ns, manifest, expectedContainers }

def audit? (d : Document) (n : Node) : Option PackageAudit := do
  let fs ← d.strict? ["pod_filter", "package_filter"] n
  let standard : PackageAudit := {}
  let podFilter ← d.field fs "pod_filter" standard.podFilter Document.text?
  let packageFilter ← d.field fs "package_filter" standard.packageFilter Document.text?
  some { podFilter, packageFilter }

def ofDocument? (d : Document) : Option Config := do
  let fs ← d.strict?
    ["cluster", "operators", "control_plane", "member_roll", "smoke", "waits", "components",
      "package_audit"] d.root
  let standard : Config := {}
  let cluster ← d.field fs "cluster" standard.cluster cluster?
  let operators ← d.field fs "operators" standard.operators operators?
  let controlPlane ← d.field fs "control_plane" standard.controlPlane controlPlane?
  let memberRoll ← d.field fs "member_roll" standard.memberRoll memberRoll?
  let smoke ← d.field fs "smoke" standard.smoke smoke?
  let waits ← d.field fs "waits" standard.waits waitOverrides?
  let parts ← d.field fs "components" [] <|
    Document.list? (Document.choice? Part.ofKey?)
  let audit ← d.field fs "package_audit" none (Document.optional? audit?)
  some { cluster, operators, controlPlane, memberRoll, smoke, waits, parts, audit }

def ofText? (s : String) : Option Config :=
  if Text.isBlankText s then some {} else (Document.ofText? s).bind ofDocument?

def ofText (s : String) : Except Misconfiguration Config :=
  match ofText? s with
  | some c => .ok c
  | none => .error (.malformed none)

/-- Reads a configuration from a file. Its relative paths are relative to the file's directory. -/
def ofFile (read : String → Except FileError String) (path : String) :
    Except Misconfiguration Config :=
  match read path with
  | .error e => .error (.unreadable path e)
  | .ok s =>
    match ofText? s with
    | some c => .ok (c.relativeTo (Path.parent path))
    | none => .error (.malformed (some path))

end MeshTestbed.Config
