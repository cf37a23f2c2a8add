import MeshTestbed.Json.Decode
import MeshTestbed.Text.Lines
import MeshTestbed.Text.Search

namespace MeshTestbed

structure Condition where
  type : String
  status : String
  reason : String
  message : String
deriving DecidableEq

/-- Conditions of one query, in the order of each type's first report. -/
abbrev Conditions := List Condition

/-- What a condition has to say: a status, and a part of its reason or message. -/
structure ConditionDemand where
  type : String
  status : String
  reason : Option String := none
deriving DecidableEq

namespace Condition

def render (c : Condition) : String :=
  c.type ++ "=" ++ c.status ++ ", reason=" ++ c.reason ++ ", message=" ++ c.message

def toJson (c : Condition) : Json :=
  .obj [("type", .str c.type), ("status", .str c.status), ("reason", .str c.reason),
    ("message", .str c.message)]

end Condition

namespace Conditions

def get? (cs : Conditions) (type : String) : Option Condition :=
  cs.find? fun c => c.type == type

/-- A later report of a type takes the place of the earlier one. -/
def put (cs : Conditions) (c : Condition) : Conditions :=
  if cs.any fun d => d.type == c.type then
    cs.map fun d => if d.type == c.type then c else d
  else cs ++ [c]

def render (cs : Conditions) : String :=
  Text.joinWith "\n" (cs.map Condition.render)

end Conditions

namespace ConditionDemand

def render (demand : ConditionDemand) : String :=
  demand.type ++ "=" ++ demand.status ++
    match demand.reason with
    | none => ""
    | some reason => " (reason contains '" ++ reason ++ "')"

/-- A missing or empty reason asks for none. -/
def holdsFor (demand : ConditionDemand) (c : Condition) : Bool :=
  c.status == demand.status &&
    match demand.reason with
    | none => true
    | some reason => Text.contains c.reason reason || Text.contains c.message reason

def isMet (demand : ConditionDemand) (cs : Conditions) : Bool :=
  match cs.get? demand.type with
  | none => false
  | some c => demand.holdsFor c

def members (demand : ConditionDemand) : List (String × Json) :=
  [("condition_type", .str demand.type), ("required_status", .str demand.status)] ++
    Json.optional "required_reason" .str demand.reason

def toJson (demand : ConditionDemand) : Json := .obj demand.members

def ofJson? (v : Json) : Option ConditionDemand := do
  let ms ← v.fields? ["condition_type", "required_status"] ["required_reason"]
  let type ← Json.required ms "condition_type" Json.text?
  let status ← Json.required ms "required_status" Json.text?
  let reason ← Json.nullable ms "required_reason" Json.text?
  some ⟨type, status, reason⟩

end ConditionDemand

end MeshTestbed
