import MeshTestbed.Command.Basic
import MeshTestbed.Condition.Reading
import MeshTestbed.Pods

namespace MeshTestbed

inductive Goal where
  | condition (demand : ConditionDemand)
  /-- No pod is still being created; without `allowEmpty` there must be a pod. -/
  | podsSettled (allowEmpty : Bool)
  /-- Every pod runs with all its containers, as many as expected. -/
  | podsReady (expected : Option UInt32)
  | absent
deriving DecidableEq

/-- The judgement of one query, with the state it saw. -/
structure Judgement where
  satisfied : Bool
  snapshot : String
deriving DecidableEq

namespace Goal

def render : Goal → String
  | condition demand => demand.render
  | podsSettled allowEmpty => if allowEmpty then "pods settled (empty ok)" else "pods settled"
  | podsReady none => "pods ready"
  | podsReady (some n) => "pods ready (" ++ Text.ofNat n.toNat ++ " containers)"
  | absent => "absent"

/-- Words by which a failed query says that the resource is gone. -/
def goneMarks : List String := ["NotFound", "not found"]

def nothingFound : String := "No resources found"

/-- A failed query is never satisfied, except that "not found" proves absence. -/
def judgeFailure (goal : Goal) (o : Completion) : Judgement :=
  let stderr := Text.trimmed o.stderr
  ⟨goal = absent && Text.containsAny stderr goneMarks, stderr⟩

def podView (stdout stderr : String) : String :=
  if stdout.isEmpty then Text.trimmed stderr else stdout

def judgeSuccess (goal : Goal) (o : Completion) : Judgement :=
  let stdout := Text.trimmed o.stdout
  match goal with
  | condition c =>
    let found := Conditions.ofOutput stdout
    ⟨c.isMet found, if found.isEmpty then "(no conditions reported)" else found.render⟩
  | podsSettled allowEmpty =>
    let pods := Pods.ofTable stdout
    ⟨if allowEmpty then pods.areQuiet else pods.areSettled, podView stdout o.stderr⟩
  | podsReady expected =>
    ⟨(Pods.ofTable stdout).isReady expected, podView stdout o.stderr⟩
  | absent =>
    ⟨stdout.isEmpty || Text.contains stdout nothingFound || Text.contains o.stderr nothingFound,
      stdout⟩

def judge (goal : Goal) (o : Completion) : Judgement :=
  if o.isOk then goal.judgeSuccess o else goal.judgeFailure o

def members : Goal → List (String × Json)
  | condition c => ("check", .str "condition") :: c.members
  | podsSettled allowEmpty => [("check", .str "pods_settled"), ("allow_empty", .bool allowEmpty)]
  | podsReady expected =>
    ("check", .str "pods_ready") ::
      Json.optional "expected_containers" (fun n => .nat n.toNat) expected
  | absent => [("check", .str "absent")]

def toJson (goal : Goal) : Json := .obj goal.members

def ofJson? (v : Json) : Option Goal := do
  let (tag, v) ← v.tagged? "check"
  if tag = "condition" then (ConditionDemand.ofJson? v).map condition
  else if tag = "pods_settled" then
    let ms ← v.fields? [] ["allow_empty"]
    (Json.defaulted ms "allow_empty" false Json.bool?).map podsSettled
  else if tag = "pods_ready" then
    let ms ← v.fields? [] ["expected_containers"]
    (Json.nullable ms "expected_containers" Json.uint32?).map podsReady
  else if tag = "absent" then (v.fields? [] []).map fun _ => absent
  else none

end Goal

end MeshTestbed
