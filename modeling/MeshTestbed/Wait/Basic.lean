import MeshTestbed.Command.ClusterTool
import MeshTestbed.Wait.Goal
import MeshTestbed.Time.Span

namespace MeshTestbed

inductive Target where
  | named (kind name : String)
  | collection (kind : String)
  /-- The resources that a manifest declares. -/
  | manifest (path : String)
deriving DecidableEq

/-- What is queried, what it is judged by, and when. -/
structure Wait where
  target : Target
  ns : Option String
  goal : Goal
  /-- The sleep between two queries. -/
  interval : Span
  /-- The time after which no query follows. -/
  timeout : Span
deriving DecidableEq

/-- What makes a wait unusable; `subject` is the wait's own text. -/
inductive WaitFault where
  | zeroInterval (subject : String)
  | timeoutShorterThanInterval (subject : String) (timeout interval : Span)
  | emptyCondition (subject : String)
  | unnamedTarget (subject : String)
deriving DecidableEq

namespace WaitFault

def subject : WaitFault → String
  | zeroInterval s => s
  | timeoutShorterThanInterval s _ _ => s
  | emptyCondition s => s
  | unnamedTarget s => s

def complaint : WaitFault → String
  | zeroInterval _ => "poll interval must be greater than zero"
  | timeoutShorterThanInterval _ timeout interval =>
    "timeout " ++ timeout.render ++ " is shorter than poll interval " ++ interval.render
  | emptyCondition _ => "condition type and required status must be set"
  | unnamedTarget _ => "condition checks need a named resource"

def message (e : WaitFault) : String :=
  "readiness spec for '" ++ e.subject ++ "': " ++ e.complaint

end WaitFault

namespace Target

def render : Target → String
  | named kind name => kind ++ "/" ++ name
  | collection kind => kind
  | manifest path => "-f " ++ path

def isNamed : Target → Bool
  | named _ _ => true
  | _ => false

def toJson : Target → Json
  | named kind name => .obj [("ref", .str "named"), ("kind", .str kind), ("name", .str name)]
  | collection kind => .obj [("ref", .str "collection"), ("kind", .str kind)]
  | manifest path => .obj [("ref", .str "manifest"), ("path", .str path)]

def ofJson? (v : Json) : Option Target := do
  let (tag, v) ← v.tagged? "ref"
  if tag = "named" then
    let ms ← v.fields? ["kind", "name"] []
    let kind ← Json.required ms "kind" Json.text?
    let name ← Json.required ms "name" Json.text?
    some (named kind name)
  else if tag = "collection" then
    let ms ← v.fields? ["kind"] []
    (Json.required ms "kind" Json.text?).map collection
  else if tag = "manifest" then
    let ms ← v.fields? ["path"] []
    (Json.required ms "path" Json.text?).map manifest
  else none

end Target

namespace Span

def toJson (s : Span) : Json := .obj [("secs", .nat s.secs.toNat), ("nanos", .nat s.nanos)]

def ofJson? (v : Json) : Option Span := do
  let ms ← v.strictFields? ["secs", "nanos"] []
  let secs ← Json.required ms "secs" (Json.natBelow? UInt64.size)
  let nanos ← Json.required ms "nanos" (Json.natBelow? UInt32.size)
  ofParts? secs nanos

end Span

namespace Wait

def defaultInterval : Span := .ofSecs 5

def defaultTimeout : Span := .ofSecs 240

def of (target : Target) (ns : Option String) (goal : Goal) : Wait :=
  ⟨target, ns, goal, defaultInterval, defaultTimeout⟩

def condition (kind name : String) (ns : Option String) (demand : ConditionDemand) : Wait :=
  of (.named kind name) ns (.condition demand)

def podsSettled (ns : String) (allowEmpty : Bool) : Wait :=
  of (.collection "pod") (some ns) (.podsSettled allowEmpty)

def podsReady (ns : String) (expected : Option UInt32) : Wait :=
  of (.collection "pod") (some ns) (.podsReady expected)

def absent (target : Target) (ns : Option String) : Wait :=
  of target ns .absent

def paced (wait : Wait) (interval timeout : Span) : Wait :=
  { wait with interval, timeout }

def render (wait : Wait) : String :=
  wait.target.render ++ " " ++
    (match wait.ns with
      | none => ""
      | some ns => "in " ++ ns ++ " ") ++
    wait.goal.render

/-- The goal's own demands: a type, a status and a named resource for a condition. -/
def goalFault? (wait : Wait) : Option WaitFault :=
  match wait.goal with
  | .condition c =>
    if Text.isBlankText c.type || Text.isBlankText c.status then some (.emptyCondition wait.render)
    else if wait.target.isNamed then none
    else some (.unnamedTarget wait.render)
  | _ => none

def fault? (wait : Wait) : Option WaitFault :=
  if wait.interval.isZero then some (.zeroInterval wait.render)
  else if wait.timeout.toNanos < wait.interval.toNanos then
    some (.timeoutShorterThanInterval wait.render wait.timeout wait.interval)
  else wait.goalFault?

def queryArgv (wait : Wait) (tool : ClusterTool) : Argv :=
  match wait.goal, wait.target with
  | .condition _, .named kind name => tool.showConditions kind name wait.ns
  | .podsSettled _, _ => pods
  | .podsReady _, _ => pods
  | _, .named kind name => tool.showNamed kind name wait.ns
  | _, .collection kind => tool.showKind kind wait.ns
  | _, .manifest path => tool.showDeclared wait.ns path
where
  pods : Argv :=
    match wait.ns with
    | some ns => tool.showPods ns
    | none => tool.showKind "pod" none

def toJson (wait : Wait) : Json :=
  .obj <|
    ("resource", wait.target.toJson) :: Json.optional "namespace" .str wait.ns ++
      [("check", wait.goal.toJson), ("poll_interval", wait.interval.toJson),
        ("timeout", wait.timeout.toJson)]

def ofJson? (v : Json) : Option Wait := do
  let ms ← v.fields? ["resource", "namespace", "check", "poll_interval", "timeout"] []
  let target ← Json.required ms "resource" Target.ofJson?
  let ns ← Json.nullable ms "namespace" Json.text?
  let goal ← Json.required ms "check" Goal.ofJson?
  let interval ← Json.required ms "poll_interval" Span.ofJson?
  let timeout ← Json.required ms "timeout" Span.ofJson?
  some ⟨target, ns, goal, interval, timeout⟩

end Wait

end MeshTestbed
