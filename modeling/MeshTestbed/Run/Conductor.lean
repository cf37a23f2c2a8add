import MeshTestbed.Command.Tolerance
import MeshTestbed.Run.Sequence
import MeshTestbed.Run.Waiting

/-!
Runs stages one at a time. Each issues its command, judges the answer by the tolerance table and
waits for readiness; a failed or cancelled stage ends the sequence.
-/

namespace MeshTestbed

structure Conductor (σ : Type) where
  runner : Runner σ
  tool : ClusterTool
  tolerance : Tolerances

namespace StageRecord

/-- What the answer of the command makes of a stage that has just started. -/
def afterCommand (r : StageRecord) (stage : Stage) (tolerance : Tolerances) :
    Except CommandFailure Completion → StageRecord
  | .error e => { r with status := .failed, error := some e.message }
  | .ok output =>
    if output.isOk then { r with exitCode := output.exitCode }
    else
      let label := tolerance.label? stage.kind stage.effect output
      { r with
        status := if label.isSome then .tolerated else .failed
        exitCode := output.exitCode
        stderr := Text.trimmed output.stderr
        tolerated := label }

/-- What the outcome of the wait makes of a stage whose command was accepted. -/
def afterWait (r : StageRecord) (policy : TimeoutResponse) (outcome : WaitEnding) : StageRecord :=
  let r := { r with waited := some outcome }
  match outcome with
  | .satisfied _ _ => r
  | .timedOut _ _ _ =>
    match policy with
    | .continue => { r with status := .timedOut }
    | .escalate =>
      { r with status := .failed, error := some ("readiness wait timed out: " ++ outcome.render) }
  | .commandFailed _ error =>
    { r with status := .failed, error := some ("readiness query could not run: " ++ error) }
  | .cancelled _ reason => { r with status := .cancelled, error := some reason }

end StageRecord

namespace Conductor

variable {σ : Type}

def awaitReadiness (seq : Conductor σ) (stage : Stage) (wait : Wait) (r : StageRecord) :
    RunM σ StageRecord := do
  let outcome ← wait.run seq.runner seq.tool
  RunM.tell (.pollFinished stage.name outcome)
  return r.afterWait stage.onTimeout outcome

/-- Runs one stage; whatever happens is in the record. -/
def perform (seq : Conductor σ) (stage : Stage) : RunM σ StageRecord := do
  let startedAt ← RunM.stamp
  let call := stage.action.call seq.tool
  let command := summarize call.argv
  RunM.tell (.stageStarted stage.name stage.kind command)
  let answer ← RunM.call seq.runner call
  let started : StageRecord :=
    { name := stage.name, kind := stage.kind, status := .succeeded, command, startedAt
      endedAt := startedAt }
  let accepted := started.afterCommand stage seq.tolerance answer
  let waited ← match stage.readiness with
    | some wait =>
      if accepted.status.isOk then seq.awaitReadiness stage wait accepted else pure accepted
    | none => pure accepted
  let result := { waited with endedAt := ← RunM.stamp }
  RunM.tell (.stageFinished result)
  return result

def stopReason (r : StageRecord) : RunM σ String :=
  match r.diagnosis? with
  | some failure => return failure.render
  | none => RunM.cancelReason

/-- Runs stages until one ends the sequence or the cancellation comes before one. -/
def runStages (seq : Conductor σ) : List Stage → RunM σ (List StageRecord × Option Stop)
  | [] => return ([], none)
  | stage :: rest => do
    match ← RunM.cancelled with
    | some reason => return ([], some ⟨stage.name, .cancelled, reason⟩)
    | none =>
      let result ← seq.perform stage
      if result.status.endsSequence then
        return ([result], some ⟨result.name, result.status, ← stopReason result⟩)
      else
        let (results, stop) ← seq.runStages rest
        return (result :: results, stop)

def run (seq : Conductor σ) (direction : Direction) (stages : List Stage) :
    RunM σ SequenceRecord := do
  let (results, stop) ← seq.runStages stages
  return ⟨direction, results, stop⟩

def carryOut (seq : Conductor σ) (stages : List Stage) : RunM σ SequenceRecord :=
  seq.run .forward stages

/-- The stages that undo a list: in reverse, those without an inverse left out. -/
def undoing (stages : List Stage) : List Stage := stages.reverse.filterMap Stage.undo?

def undo (seq : Conductor σ) (stages : List Stage) : RunM σ SequenceRecord :=
  seq.run .backward (undoing stages)

end Conductor

end MeshTestbed
