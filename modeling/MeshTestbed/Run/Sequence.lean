import MeshTestbed.Stage.Record

namespace MeshTestbed

inductive Direction where
  | forward
  /-- Stages in reverse, each replaced by the one that undoes it. -/
  | backward
deriving DecidableEq

structure Stop where
  stage : String
  status : Status
  reason : String
deriving DecidableEq

structure SequenceRecord where
  direction : Direction
  results : List StageRecord := []
  stop : Option Stop := none
deriving DecidableEq

/-- How a whole run went. -/
inductive Verdict where
  | succeeded
  /-- It went to its end, past a wait that ran out of time. -/
  | degraded
  | failed
  | cancelled
deriving DecidableEq

namespace Direction

def all : List Direction := [forward, backward]

def text : Direction → String
  | forward => "forward"
  | backward => "backward"

def ofText? (s : String) : Option Direction := all.find? fun d => d.text == s

end Direction

namespace Stop

def render (s : Stop) : String :=
  "halted at '" ++ s.stage ++ "' (" ++ s.status.text ++ "): " ++ s.reason

def toJson (s : Stop) : Json :=
  .obj [("stage", .str s.stage), ("status", .str s.status.key), ("reason", .str s.reason)]

def ofJson? (v : Json) : Option Stop := do
  let ms ← v.fields? ["stage", "status", "reason"] []
  let stage ← Json.required ms "stage" Json.text?
  let status ← Json.required ms "status" (Json.choice? Status.ofKey?)
  let reason ← Json.required ms "reason" Json.text?
  some ⟨stage, status, reason⟩

end Stop

namespace SequenceRecord

def isComplete (r : SequenceRecord) : Bool := r.stop.isNone

def isCancelled (r : SequenceRecord) : Bool := r.stop.any fun s => s.status = .cancelled

def hasOverruns (r : SequenceRecord) : Bool := r.results.any fun x => x.status = .timedOut

def result? (r : SequenceRecord) (name : String) : Option StageRecord :=
  r.results.find? fun x => x.name == name

def stageNames (r : SequenceRecord) : List String := r.results.map (·.name)

/-- Appends a later sequence of the same run; the first stop is kept. -/
def followedBy (r later : SequenceRecord) : SequenceRecord :=
  { r with results := r.results ++ later.results, stop := r.stop.or later.stop }

def toJson (r : SequenceRecord) : Json :=
  .obj <|
    [("direction", .str r.direction.text), ("results", .arr (r.results.map StageRecord.toJson))] ++
      Json.optional "halted" Stop.toJson r.stop

def ofJson? (v : Json) : Option SequenceRecord := do
  let ms ← v.fields? ["direction", "results", "halted"] []
  let direction ← Json.required ms "direction" (Json.choice? Direction.ofText?)
  let results ← Json.required ms "results" (Json.list? StageRecord.ofJson?)
  let stop ← Json.nullable ms "halted" Stop.ofJson?
  some ⟨direction, results, stop⟩

end SequenceRecord

namespace Verdict

def all : List Verdict := [succeeded, degraded, failed, cancelled]

def text : Verdict → String
  | succeeded => "succeeded"
  | degraded => "degraded"
  | failed => "failed"
  | cancelled => "cancelled"

def ofText? (s : String) : Option Verdict := all.find? fun o => o.text == s

def ofSequence (r : SequenceRecord) : Verdict :=
  if r.isCancelled then cancelled
  else if !r.isComplete then failed
  else if r.hasOverruns then degraded
  else succeeded

/-- The exit code of the process that made the run. -/
def exitCode : Verdict → Nat
  | succeeded => 0
  | failed => 1
  | degraded => 2
  | cancelled => 130

end Verdict

end MeshTestbed
