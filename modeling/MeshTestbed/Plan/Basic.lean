import MeshTestbed.Wait.Basic
import MeshTestbed.Stage.Kind

namespace MeshTestbed

inductive Part where
  | operators
  | controlPlane
  | smoke
  | all
deriving DecidableEq

structure Selection where
  operators : Bool := true
  controlPlane : Bool := true
  smoke : Bool := true
deriving DecidableEq

structure Pace where
  interval : Span
  timeout : Span
  onTimeout : TimeoutResponse
deriving DecidableEq

/-- How a run waits: for each install step, and for every deletion. -/
structure Pacing where
  operatorPods : Pace
  controlPlane : Pace
  memberRoll : Pace
  smoke : Pace
  deletion : Pace
deriving DecidableEq

structure Subscriptions where
  logging : String
  tracing : String
  dashboard : String
  mesh : String
deriving DecidableEq

inductive OperatorDelivery where
  | subscriptions (s : Subscriptions)
  /-- One manifest, applied into the operators' namespace. -/
  | manifest (path : String)
deriving DecidableEq

structure Grant where
  serviceAccount : String
  ns : String
deriving DecidableEq

structure Operators where
  ns : String
  source : OperatorDelivery
  grants : List Grant := []
  /-- Whether a namespace without pods counts as settled. -/
  allowEmptyNamespace : Bool := false
deriving DecidableEq

structure ControlPlane where
  name : String
  ns : String
  kind : String
  manifest : String
  installed : ConditionDemand
deriving DecidableEq

/-- The member roll lives in the control plane's namespace. -/
structure MemberRoll where
  name : String
  kind : String
  manifest : String
  ready : ConditionDemand
deriving DecidableEq

structure SmokeTest where
  ns : String
  manifest : String
  expectedContainers : Option UInt32
deriving DecidableEq

/-- Which pods of the control plane are audited, and which of their packages are reported. -/
structure PackageAudit where
  podFilter : String := "istio"
  packageFilter : String := "servicemesh"
deriving DecidableEq

/-- Names in ascending order of code points, each once. -/
structure NameSet where
  toList : List String
  ordered : toList.Pairwise (· < ·)

structure Plan where
  operators : Operators
  controlPlane : ControlPlane
  memberRoll : MemberRoll
  members : NameSet
  smoke : SmokeTest
  selection : Selection
  waits : Pacing
  audit : Option PackageAudit := none

namespace Part

def values : List Part := [operators, controlPlane, smoke, all]

def key : Part → String
  | operators => "operators"
  | controlPlane => "control_plane"
  | smoke => "smoke"
  | all => "all"

def ofKey? (s : String) : Option Part := values.find? fun c => c.key == s

def flag : Part → String
  | controlPlane => "control-plane"
  | c => c.key

def lowered (s : String) : String := String.ofList (s.toList.map Char.toLower)

def ofFlag? (ignoreCase : Bool) (s : String) : Option Part :=
  values.find? fun c => c.flag == if ignoreCase then lowered s else s

end Part

namespace Selection

/-- No part named selects every one. -/
def ofParts (cs : List Part) : Selection :=
  if cs.isEmpty || cs.contains .all then {}
  else
    { operators := cs.contains .operators
      controlPlane := cs.contains .controlPlane
      smoke := cs.contains .smoke }

def render (c : Selection) : String :=
  let names := (if c.operators then ["operators"] else []) ++
    (if c.controlPlane then ["control-plane"] else []) ++ (if c.smoke then ["smoke"] else [])
  if names.isEmpty then "none" else Text.joinWith ", " names

end Selection

namespace Pace

def ofSecs (interval timeout : UInt64) (onTimeout : TimeoutResponse) : Pace :=
  ⟨.ofSecs interval, .ofSecs timeout, onTimeout⟩

def applyTo (p : Pace) (wait : Wait) : Wait :=
  wait.paced p.interval p.timeout

end Pace

namespace Pacing

def standard : Pacing :=
  { operatorPods := .ofSecs 5 240 .continue
    controlPlane := .ofSecs 5 1200 .escalate
    memberRoll := .ofSecs 5 120 .continue
    smoke := .ofSecs 5 240 .continue
    deletion := .ofSecs 5 300 .continue }

end Pacing

namespace Subscriptions

def standard : Subscriptions :=
  { logging := "subscriptions/elasticsearch.yaml"
    tracing := "subscriptions/jaeger.yaml"
    dashboard := "subscriptions/kiali.yaml"
    mesh := "subscriptions/servicemesh.yaml" }

def inOrder (s : Subscriptions) : List (String × String) :=
  [("logging", s.logging), ("tracing", s.tracing), ("dashboard", s.dashboard), ("mesh", s.mesh)]

end Subscriptions

namespace NameSet

def empty : NameSet := ⟨[], .nil⟩

def insertSorted (name : String) : List String → List String
  | [] => [name]
  | other :: rest =>
    if name < other then name :: other :: rest
    else if name = other then other :: rest
    else other :: insertSorted name rest

theorem mem_insertSorted {name x : String} {names : List String} :
    x ∈ insertSorted name names ↔ x = name ∨ x ∈ names := by
  induction names with
  | nil => simp [insertSorted]
  | cons other rest ih =>
    unfold insertSorted
    split
    · simp
    · split
      · rename_i h
        simp [h]
      · simp [ih, or_left_comm]

theorem pairwise_insertSorted {name : String} {names : List String}
    (h : names.Pairwise (· < ·)) : (insertSorted name names).Pairwise (· < ·) := by
  induction names with
  | nil => simp [insertSorted]
  | cons other rest ih =>
    obtain ⟨hlt, hrest⟩ := List.pairwise_cons.1 h
    unfold insertSorted
    split
    · rename_i hn
      refine List.pairwise_cons.2 ⟨fun x hx => ?_, h⟩
      rcases List.mem_cons.1 hx with rfl | hx
      · exact hn
      · exact String.lt_trans hn (hlt x hx)
    · split
      · exact h
      · rename_i hn hne
        refine List.pairwise_cons.2 ⟨fun x hx => ?_, ih hrest⟩
        rcases mem_insertSorted.1 hx with rfl | hx
        · exact Std.lt_of_le_of_ne hn (Ne.symm hne)
        · exact hlt x hx

def insert (s : NameSet) (name : String) : NameSet :=
  ⟨insertSorted name s.toList, pairwise_insertSorted s.ordered⟩

def ofList (names : List String) : NameSet := names.foldl insert empty

def erase (s : NameSet) (name : String) : NameSet :=
  ⟨s.toList.filter (· ≠ name), s.ordered.filter _⟩

end NameSet

namespace Plan

/-- Namespaces created for workloads: the members, and the smoke test's if it is covered. The
control plane's own is created before them. -/
def workloads (p : Plan) : List String :=
  let members := if p.selection.controlPlane then p.members else .empty
  let all := if p.selection.smoke then members.insert p.smoke.ns else members
  (all.erase p.controlPlane.ns).toList

def pushNew (names : List String) (name : String) : List String :=
  if names.contains name then names else names ++ [name]

def listedNamespaces (p : Plan) : List String :=
  let names := (if p.selection.operators then [p.operators.ns] else []) ++
    (if p.selection.controlPlane then [p.controlPlane.ns] else []) ++
    (if p.selection.smoke then [p.smoke.ns] else [])
  names.foldl pushNew []

def standard : Plan :=
  { operators := { ns := "openshift-operators", source := .subscriptions .standard }
    controlPlane :=
      { name := "basic", ns := "istio-system", kind := "ServiceMeshControlPlane"
        manifest := "smcp.yaml", installed := ⟨"Installed", "True", none⟩ }
    memberRoll :=
      { name := "default", kind := "ServiceMeshMemberRoll", manifest := "smmr.yaml"
        ready := ⟨"Ready", "True", none⟩ }
    members := .ofList ["bookinfo"]
    smoke := { ns := "bookinfo", manifest := "bookinfo.yaml", expectedContainers := some 2 }
    selection := {}
    waits := .standard }

end Plan

end MeshTestbed
