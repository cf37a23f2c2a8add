import MeshTestbed.Stage.Record

namespace MeshTestbed

inductive Event where
  | runStarted (runId operation : String)
  | runFinished (runId outcome : String)
  | stageStarted (stage : String) (kind : ActionKind) (command : String)
  | stageFinished (result : StageRecord)
  | pollFinished (stage : String) (outcome : WaitEnding)
deriving DecidableEq

structure EventRecord where
  type : String
  data : List (String × Json) := []

namespace EventRecord

/-- A later value of a key takes the place of the earlier one. -/
def add (e : EventRecord) (key : String) (value : Json) : EventRecord :=
  { e with data := Json.put key value e.data }

def text? (e : EventRecord) (key : String) : Option String :=
  (Json.lookup key e.data).bind Json.text?

def toJson (e : EventRecord) : Json := .obj [("type", .str e.type), ("data", .obj e.data)]

def ofType (start : String) (records : List EventRecord) : List EventRecord :=
  records.filter fun e => start.toList.isPrefixOf e.type.toList

end EventRecord

namespace Event

/-- A stage that stops its sequence is reported as failed. -/
def record : Event → EventRecord
  | runStarted runId operation =>
    ⟨"run.started", [("run_id", .str runId), ("operation", .str operation)]⟩
  | runFinished runId outcome =>
    ⟨"run.finished", [("run_id", .str runId), ("outcome", .str outcome)]⟩
  | stageStarted stage kind command =>
    ⟨"stage.started", [("stage", .str stage), ("kind", .str kind.text), ("command", .str command)]⟩
  | stageFinished r =>
    ⟨if r.status.endsSequence then "stage.failed" else "stage.completed",
      [("stage", .str r.name), ("status", .str r.status.text),
        ("duration_ms", .int r.millis)] ++
        Json.optional "error" .str r.error⟩
  | pollFinished stage outcome =>
    ⟨"poll.finished", [("stage", .str stage), ("outcome", outcome.toJson)]⟩

end Event

end MeshTestbed
