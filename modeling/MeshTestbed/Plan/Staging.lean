import MeshTestbed.Plan.Basic
import MeshTestbed.Stage.Basic

/-!
The stages of a plan. A namespace is created just before what needs it, so that the install list
inverted is the teardown: member roll, workloads, control plane, operators.
-/

namespace MeshTestbed.Plan

def namespaceKind : String := "namespace"

def leftoverKind : String := "csv"

def goneWait (p : Plan) (resource : Target) (ns : Option String) : Wait :=
  p.waits.deletion.applyTo (.absent resource ns)

/-- A stage that waits, when it is undone, until the resource is gone. -/
def tornDown (p : Plan) (s : Stage) (resource : Target) (ns : Option String) : Stage :=
  s.undoneBy (p.goneWait resource ns) p.waits.deletion.onTimeout

def grantStage (tool : ClusterTool) (g : Grant) : Stage :=
  .external ("grant-anyuid-" ++ g.ns ++ "-" ++ g.serviceAccount)
    (tool.allowAnyuid g.serviceAccount g.ns)

def operatorApplies (p : Plan) : List Stage :=
  match p.operators.source with
  | .subscriptions s =>
    s.inOrder.map fun (role, path) =>
      p.tornDown (.applyFrom ("apply-subscription-" ++ role) none path) (.manifest path) none
  | .manifest path =>
    let ns := some p.operators.ns
    [p.tornDown (.applyFrom "apply-operator" ns path) (.manifest path) ns]

def operatorsSettled (p : Plan) : Wait :=
  p.waits.operatorPods.applyTo (.podsSettled p.operators.ns p.operators.allowEmptyNamespace)

def mapLast {α : Type} (f : α → α) : List α → List α
  | [] => []
  | [a] => [f a]
  | a :: b :: rest => a :: mapLast f (b :: rest)

/-- Grants, then the operators; the last stage waits for all of them. -/
def operatorSetup (p : Plan) (tool : ClusterTool) : List Stage :=
  mapLast (fun s => s.awaiting p.operatorsSettled p.waits.operatorPods.onTimeout)
    (p.operators.grants.map (grantStage tool) ++ p.operatorApplies)

def namespaceCreation (p : Plan) (ns : String) : Stage :=
  p.tornDown (.createNamespace ns) (.named namespaceKind ns) none

def controlPlaneApply (p : Plan) : Stage :=
  let cp := p.controlPlane
  let ready := p.waits.controlPlane.applyTo (.condition cp.kind cp.name (some cp.ns) cp.installed)
  p.tornDown
    ((Stage.applyFrom "apply-control-plane" (some cp.ns) cp.manifest).awaiting ready
      p.waits.controlPlane.onTimeout)
    (.named cp.kind cp.name) (some cp.ns)

def memberRollApply (p : Plan) : Stage :=
  let roll := p.memberRoll
  let ns := some p.controlPlane.ns
  let ready := p.waits.memberRoll.applyTo (.condition roll.kind roll.name ns roll.ready)
  p.tornDown
    ((Stage.applyFrom "apply-member-roll" ns roll.manifest).awaiting ready
      p.waits.memberRoll.onTimeout)
    (.named roll.kind roll.name) ns

/-- The stages whose work outlasts an install. -/
def lasting (p : Plan) (tool : ClusterTool) : List Stage :=
  (if p.selection.operators then p.operatorSetup tool else []) ++
    (if p.selection.controlPlane then [p.namespaceCreation p.controlPlane.ns, p.controlPlaneApply]
    else []) ++
    p.workloads.map p.namespaceCreation ++
    (if p.selection.controlPlane then [p.memberRollApply] else [])

def smokeVerify (p : Plan) : Stage :=
  let ns := some p.smoke.ns
  let ready := p.waits.smoke.applyTo (.podsReady p.smoke.ns p.smoke.expectedContainers)
  p.tornDown
    ((Stage.applyFrom "apply-smoke-workload" ns p.smoke.manifest).awaiting ready
      p.waits.smoke.onTimeout)
    (.collection "pod") ns

/-- The smoke workload's stage and the one that removes it, if the workload is covered. -/
def smokePair? (p : Plan) : Option (Stage × Stage) :=
  if p.selection.smoke then p.smokeVerify.undo?.map fun teardown => (p.smokeVerify, teardown)
  else none

/-- What an uninstall runs after the inverted install. -/
def cleanup (p : Plan) : List Stage :=
  if p.selection.operators then
    let ns := p.operators.ns
    [(Stage.deleteCollection "delete-operator-csvs" leftoverKind ns).awaiting
      (p.goneWait (.collection leftoverKind) (some ns)) p.waits.deletion.onTimeout]
  else []

def installation (p : Plan) (tool : ClusterTool) : List Stage :=
  p.lasting tool ++
    match p.smokePair? with
    | some (verify, teardown) => [verify, teardown]
    | none => []

def removal (p : Plan) (tool : ClusterTool) : List Stage :=
  (p.lasting tool).reverse.filterMap Stage.undo? ++ p.cleanup

def commands (p : Plan) (tool : ClusterTool) : List Argv :=
  (p.installation tool ++ p.removal tool).flatMap fun s =>
    (s.action.call tool).argv ::
      (s.readiness.toList ++ s.teardownReadiness.toList).map fun wait => wait.queryArgv tool

def manifestPaths (p : Plan) : List String :=
  (if p.selection.operators then
    match p.operators.source with
    | .subscriptions s => s.inOrder.map (·.2)
    | .manifest path => [path]
  else []) ++
    (if p.selection.controlPlane then [p.controlPlane.manifest, p.memberRoll.manifest] else []) ++
    (if p.selection.smoke then [p.smoke.manifest] else [])

end MeshTestbed.Plan
