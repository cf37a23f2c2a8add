import MeshTestbed.Error
import MeshTestbed.Plan.Staging
import MeshTestbed.Plan.Validation
import MeshTestbed.Run.Inventory
import MeshTestbed.Run.Conductor
import MeshTestbed.Stage.Validation

namespace MeshTestbed

structure InstallRecord where
  runId : String
  verdict : Verdict
  startedAt : Stamp
  endedAt : Stamp
  sequence : SequenceRecord
  /-- Missing when the run was cancelled before the inventory. -/
  images : Option Inventory
deriving DecidableEq

structure RemovalRecord where
  runId : String
  verdict : Verdict
  startedAt : Stamp
  endedAt : Stamp
  sequence : SequenceRecord
deriving DecidableEq

/-- A run of one plan. -/
structure Testbed (σ : Type) where
  plan : Plan
  runner : Runner σ
  tool : ClusterTool
  tolerance : Tolerances := .standard

namespace SequenceRecord

def resultLines (r : StageRecord) : List String :=
  ("  " ++ r.headline) ::
    match r.diagnosis? with
    | none => []
    | some f =>
      ("    command: " ++ f.command) ::
        match f.exitCode with
        | none => []
        | some code => ["    exit code: " ++ Text.ofInt code.toInt]

def lines (operation runId : String) (r : SequenceRecord) : List String :=
  (operation ++ " " ++ runId ++ ": " ++ (Verdict.ofSequence r).text) ::
    r.results.flatMap resultLines ++
      match r.stop with
      | none => []
      | some h => ["  " ++ h.render]

end SequenceRecord

def Inventory.render (r : Inventory) : String := Text.unlines r.lines

namespace InstallRecord

def render (r : InstallRecord) : String :=
  Text.unlines <|
    r.sequence.lines "install" r.runId ++
      match r.images with
      | none => []
      | some images => "images:" :: images.lines

def exitCode (r : InstallRecord) : Nat := r.verdict.exitCode

def toJson (r : InstallRecord) : Json :=
  .obj <|
    [("run_id", .str r.runId), ("outcome", .str r.verdict.text),
      ("started_at", .str r.startedAt.render), ("ended_at", .str r.endedAt.render),
      ("sequence", r.sequence.toJson)] ++
      Json.optional "images" Inventory.toJson r.images

end InstallRecord

namespace RemovalRecord

def render (r : RemovalRecord) : String := Text.unlines (r.sequence.lines "uninstall" r.runId)

def exitCode (r : RemovalRecord) : Nat := r.verdict.exitCode

def toJson (r : RemovalRecord) : Json :=
  .obj
    [("run_id", .str r.runId), ("outcome", .str r.verdict.text),
      ("started_at", .str r.startedAt.render), ("ended_at", .str r.endedAt.render),
      ("sequence", r.sequence.toJson)]

def fieldNames : List String := ["run_id", "outcome", "started_at", "ended_at", "sequence"]

def ofMembers? (ms : List (String × Json)) : Option RemovalRecord := do
  let runId ← Json.required ms "run_id" Json.text?
  let verdict ← Json.required ms "outcome" (Json.choice? Verdict.ofText?)
  let startedAt ← Json.required ms "started_at" fun v => v.text?.bind Stamp.read?
  let endedAt ← Json.required ms "ended_at" fun v => v.text?.bind Stamp.read?
  let sequence ← Json.required ms "sequence" SequenceRecord.ofJson?
  some { runId, verdict, startedAt, endedAt, sequence }

def ofJson? (v : Json) : Option RemovalRecord := (v.fields? fieldNames []).bind ofMembers?

end RemovalRecord

def InstallRecord.ofJson? (v : Json) : Option InstallRecord := do
  let ms ← v.fields? (RemovalRecord.fieldNames ++ ["images"]) []
  let r ← RemovalRecord.ofMembers? ms
  let images ← Json.nullable ms "images" Inventory.ofJson?
  some { r with images }

namespace Testbed

variable {σ : Type} (t : Testbed σ)

def conductor : Conductor σ := ⟨t.runner, t.tool, t.tolerance⟩

def checkSession : RunM σ (Except RunError Unit) := do
  match ← RunM.call t.runner ⟨t.tool.sessionCheck, none⟩ with
  | .ok output =>
    if output.isOk then return .ok ()
    else return .error (.missingPrerequisite "cluster session" (Text.trimmed output.stderr))
  | .error e =>
    return .error (.missingPrerequisite ("cluster tool `" ++ t.tool.program ++ "`") e.message)

/-- The checks before the first stage: plan, stages, session, cancellation. -/
def enter (stages : List Stage) : RunM σ (Except RunError Unit) := do
  if let some e := t.plan.fault? then return .error (.config e)
  if let .error e := Stage.checkAll stages then return .error e
  if let .error e ← t.checkSession then return .error e
  match ← RunM.cancelled with
  | some reason => return .error (.cancelled reason)
  | none => return .ok ()

/-- No inventory is taken of a run that was cancelled. -/
def takeInventory (sequence : SequenceRecord) : RunM σ (Option Inventory) := do
  if sequence.isCancelled then return none
  let namespaces ← RunM.listImages t.runner t.tool t.plan.listedNamespaces
  let audited := t.plan.audit.bind fun audit =>
    (namespaces.find? fun n => n.ns == t.plan.controlPlane.ns).map fun images => (audit, images)
  let packages ← match audited with
    | some (audit, images) => RunM.auditPackages t.runner t.tool images audit
    | none => pure []
  return some ⟨namespaces, packages⟩

/-- Verifies the smoke workload and takes the inventory. A workload that was verified is removed
after that. -/
def runSmoke (verify teardown : Stage) (sequence : SequenceRecord) :
    RunM σ (SequenceRecord × Option Inventory) := do
  let verified ← t.conductor.carryOut [verify]
  let sequence := sequence.followedBy verified
  let images ← t.takeInventory sequence
  if verified.isComplete then
    return (sequence.followedBy (← t.conductor.carryOut [teardown]), images)
  else return (sequence, images)

/-- The stages that last, then the smoke workload; the inventory comes before its removal. -/
def installSequence : RunM σ (SequenceRecord × Option Inventory) := do
  let sequence ← t.conductor.carryOut (t.plan.lasting t.tool)
  match t.plan.smokePair? with
  | some (verify, teardown) =>
    if sequence.isComplete then t.runSmoke verify teardown sequence
    else return (sequence, ← t.takeInventory sequence)
  | none => return (sequence, ← t.takeInventory sequence)

def install (runId : String) : RunM σ (Except RunError InstallRecord) := do
  match ← t.enter (t.plan.installation t.tool) with
  | .error e => return .error e
  | .ok () =>
    let startedAt ← RunM.stamp
    RunM.tell (.runStarted runId "install")
    let (sequence, images) ← t.installSequence
    let verdict := Verdict.ofSequence sequence
    RunM.tell (.runFinished runId verdict.text)
    return .ok { runId, verdict, startedAt, endedAt := ← RunM.stamp, sequence, images }

def uninstallSequence : RunM σ SequenceRecord := do
  let sequence ← t.conductor.undo (t.plan.lasting t.tool)
  if sequence.isComplete && !t.plan.cleanup.isEmpty then
    return sequence.followedBy (← t.conductor.carryOut t.plan.cleanup)
  else return sequence

def uninstall (runId : String) : RunM σ (Except RunError RemovalRecord) := do
  match ← t.enter (t.plan.removal t.tool) with
  | .error e => return .error e
  | .ok () =>
    let startedAt ← RunM.stamp
    RunM.tell (.runStarted runId "uninstall")
    let sequence ← t.uninstallSequence
    let verdict := Verdict.ofSequence sequence
    RunM.tell (.runFinished runId verdict.text)
    return .ok { runId, verdict, startedAt, endedAt := ← RunM.stamp, sequence }

end Testbed

end MeshTestbed
