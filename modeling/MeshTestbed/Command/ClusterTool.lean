import MeshTestbed.Command.Basic

namespace MeshTestbed

/-- The dialect the tool speaks: in OpenShift's a namespace is a project. -/
inductive Flavor where
  | openshift
  | kubernetes
deriving DecidableEq

namespace Flavor

def all : List Flavor := [openshift, kubernetes]

def text : Flavor → String
  | openshift => "openshift"
  | kubernetes => "kubernetes"

def ofText? (s : String) : Option Flavor := all.find? fun f => f.text == s

end Flavor

structure ClusterTool where
  program : String := "oc"
  flavor : Flavor := .openshift
  kubeconfig : Option String := none
deriving DecidableEq

namespace ClusterTool

/-- Prints a line `type=status, reason=..., message=...` for each condition of a resource. -/
def conditionLines : String :=
  "\x7b\x7brange .status.conditions\x7d\x7d\x7b\x7bprintf \"%s=%s, reason=%s, message=%s\\n\" " ++
    ".type .status .reason .message\x7d\x7d\x7b\x7bend\x7d\x7d"

/-- Prints a pod's name, a tab and `image|id` for each of its containers, a line for each pod. -/
def imageLines : String :=
  "jsonpath=\x7brange .items[*]\x7d\x7b.metadata.name\x7d\x7b\"\\t\"\x7d" ++
    "\x7brange .status.containerStatuses[*]\x7d\x7b.image\x7d\x7b\"|\"\x7d\x7b.imageID\x7d" ++
    "\x7b\" \"\x7d\x7bend\x7d\x7b\"\\n\"\x7d\x7bend\x7d"

def kubeconfigArgs (t : ClusterTool) : Argv :=
  match t.kubeconfig with
  | none => []
  | some path => ["--kubeconfig", path]

def command (t : ClusterTool) (args : Argv) : Argv := t.program :: t.kubeconfigArgs ++ args

def namespaceArgs : Option String → Argv
  | none => []
  | some ns => ["-n", ns]

def applyFrom (t : ClusterTool) (ns : Option String) (path : String) : Argv :=
  t.command (["apply"] ++ namespaceArgs ns ++ ["-f", path])

def applyInput (t : ClusterTool) (ns : Option String) : Argv := t.applyFrom ns "-"

def deleteFrom (t : ClusterTool) (ns : Option String) (path : String) : Argv :=
  t.command (["delete"] ++ namespaceArgs ns ++ ["-f", path])

def deleteInput (t : ClusterTool) (ns : Option String) : Argv := t.deleteFrom ns "-"

def createNamespace (t : ClusterTool) (name : String) : Argv :=
  match t.flavor with
  | .openshift => t.command ["new-project", name]
  | .kubernetes => t.command ["create", "namespace", name]

def deleteNamespace (t : ClusterTool) (name : String) : Argv :=
  match t.flavor with
  | .openshift => t.command ["delete", "project", name]
  | .kubernetes => t.command ["delete", "namespace", name]

def deleteEvery (t : ClusterTool) (kind ns : String) : Argv :=
  t.command (["delete", kind] ++ namespaceArgs (some ns) ++ ["--all"])

def showConditions (t : ClusterTool) (kind name : String) (ns : Option String) : Argv :=
  t.command (["get", kind ++ "/" ++ name] ++ namespaceArgs ns ++
    ["-o", "go-template", "--template=" ++ conditionLines])

def showPods (t : ClusterTool) (ns : String) : Argv :=
  t.command (["get", "pod"] ++ namespaceArgs (some ns))

/-- The kinds that live outside of every namespace. -/
def isClusterWide (kind : String) : Bool :=
  ["namespace", "namespaces", "ns", "project", "projects"].contains
    (String.ofList (kind.toList.map Char.toLower))

def showNamed (t : ClusterTool) (kind name : String) (ns : Option String) : Argv :=
  if isClusterWide kind then t.command ["get", kind, name]
  else t.command (["get", kind ++ "/" ++ name] ++ namespaceArgs ns)

def showKind (t : ClusterTool) (kind : String) (ns : Option String) : Argv :=
  t.command (["get", kind] ++ namespaceArgs ns)

def showDeclared (t : ClusterTool) (ns : Option String) (path : String) : Argv :=
  t.command (["get"] ++ namespaceArgs ns ++ ["-f", path])

def showImages (t : ClusterTool) (ns : String) : Argv :=
  t.command (["get", "pods"] ++ namespaceArgs (some ns) ++ ["-o", imageLines])

def showPackages (t : ClusterTool) (ns pod : String) : Argv :=
  match t.flavor with
  | .openshift => t.command ["rsh", "-n", ns, pod, "rpm", "-q", "-a"]
  | .kubernetes => t.command ["exec", "-n", ns, pod, "--", "rpm", "-q", "-a"]

/-- A cheap command that fails without a usable session. -/
def sessionCheck (t : ClusterTool) : Argv :=
  match t.flavor with
  | .openshift => t.command ["whoami"]
  | .kubernetes => t.command ["config", "current-context"]

def allowAnyuid (t : ClusterTool) (serviceAccount ns : String) : Argv :=
  t.command ["adm", "policy", "add-scc-to-user", "anyuid", "-z", serviceAccount, "-n", ns]

end ClusterTool

end MeshTestbed
