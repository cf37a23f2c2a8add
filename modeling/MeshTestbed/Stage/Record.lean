import MeshTestbed.Wait.Ending
import MeshTestbed.Stage.Basic
import MeshTestbed.Time.Stamp

namespace MeshTestbed

structure StageRecord where
  name : String
  kind : ActionKind
  status : Status
  /-- The command line, with long arguments cut. -/
  command : String
  exitCode : Option Int32 := none
  /-- What a rejected command wrote to standard error. -/
  stderr : String := ""
  tolerated : Option String := none
  waited : Option WaitEnding := none
  error : Option String := none
  startedAt : Stamp
  endedAt : Stamp
deriving DecidableEq

/-- Enough for an operator to take over by hand. -/
structure Diagnosis where
  stage : String
  command : String
  exitCode : Option Int32
  detail : String
deriving DecidableEq

namespace Diagnosis

def render (f : Diagnosis) : String :=
  "stage '" ++ f.stage ++ "' failed running `" ++ f.command ++ "`" ++
    (match f.exitCode with
      | none => ""
      | some code => " (exit " ++ Text.ofInt code.toInt ++ ")") ++
    if f.detail.isEmpty then "" else ": " ++ Text.trimmed f.detail

def toJson (f : Diagnosis) : Json :=
  .obj <|
    [("stage", .str f.stage), ("command", .str f.command)] ++
      Json.optional "exit_code" (fun n => .int n.toInt) f.exitCode ++ [("detail", .str f.detail)]

def ofJson? (v : Json) : Option Diagnosis := do
  let ms ← v.fields? ["stage", "command", "exit_code", "detail"] []
  let stage ← Json.required ms "stage" Json.text?
  let command ← Json.required ms "command" Json.text?
  let exitCode ← Json.nullable ms "exit_code" Json.int32?
  let detail ← Json.required ms "detail" Json.text?
  some ⟨stage, command, exitCode, detail⟩

end Diagnosis

namespace StageRecord

def millis (r : StageRecord) : Int := Stamp.millisBetween r.startedAt r.endedAt

/-- The diagnosis of a failed stage. It carries an exit code only if the command was rejected. -/
def diagnosis? (r : StageRecord) : Option Diagnosis :=
  if r.status = .failed then
    some
      { stage := r.name
        command := r.command
        exitCode := r.exitCode.filter (· ≠ 0)
        detail := (r.error.filter fun e => !e.isEmpty).getD r.stderr }
  else none

def headline (r : StageRecord) : String :=
  "[" ++ r.status.text ++ "] " ++ r.name ++
    (match r.tolerated with
      | none => ""
      | some label => " (" ++ label ++ ")") ++
    match r.error, r.waited with
    | some error, _ => ": " ++ error
    | none, some outcome => ": " ++ outcome.render
    | none, none => ""

def toJson (r : StageRecord) : Json :=
  .obj <|
    [("name", .str r.name), ("kind", .str r.kind.text), ("status", .str r.status.key),
      ("command", .str r.command)] ++
      Json.optional "exit_code" (fun n => .int n.toInt) r.exitCode ++
      Json.member (!r.stderr.isEmpty) "stderr" (.str r.stderr) ++
      Json.optional "tolerated" .str r.tolerated ++
      Json.optional "poll" WaitEnding.toJson r.waited ++
      Json.optional "error" .str r.error ++
      [("started_at", .str r.startedAt.render), ("ended_at", .str r.endedAt.render)]

def ofJson? (v : Json) : Option StageRecord := do
  let ms ← v.fields?
    ["name", "kind", "status", "command", "exit_code", "stderr", "tolerated", "poll", "error",
      "started_at", "ended_at"] []
  let name ← Json.required ms "name" Json.text?
  let kind ← Json.required ms "kind" (Json.choice? ActionKind.ofText?)
  let status ← Json.required ms "status" (Json.choice? Status.ofKey?)
  let command ← Json.required ms "command" Json.text?
  let exitCode ← Json.nullable ms "exit_code" Json.int32?
  let stderr ← Json.defaulted ms "stderr" "" Json.text?
  let tolerated ← Json.nullable ms "tolerated" Json.text?
  let waited ← Json.nullable ms "poll" WaitEnding.ofJson?
  let error ← Json.nullable ms "error" Json.text?
  let startedAt ← Json.required ms "started_at" fun v => v.text?.bind Stamp.read?
  let endedAt ← Json.required ms "ended_at" fun v => v.text?.bind Stamp.read?
  some
    { name, kind, status, command, exitCode, stderr, tolerated, waited, error, startedAt, endedAt }

end StageRecord

end MeshTestbed
