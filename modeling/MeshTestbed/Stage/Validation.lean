import MeshTestbed.Error
import MeshTestbed.Stage.Basic

namespace MeshTestbed.Stage

def lacksProgram (s : Stage) : Bool :=
  match s.action with
  | .runExternalScript [] => true
  | .runExternalScript (program :: _) => Text.isBlankText program
  | _ => false

def fault? (s : Stage) : Option RunError :=
  if Text.isBlankText s.name then some (.config .unnamedStage)
  else if s.lacksProgram then some (.config (.emptyCommand s.name))
  else
    ((s.readiness.bind Wait.fault?).or
      (s.teardownReadiness.bind Wait.fault?)).map .malformedWait

/-- Every occurrence of a name after its first, in order. -/
def repeatedNames (seen : List String) : List String → List String
  | [] => []
  | name :: rest =>
    if seen.contains name then name :: repeatedNames seen rest
    else repeatedNames (name :: seen) rest

/-- A stage's own fault comes before repeated names, wherever it stands. -/
def checkAll (stages : List Stage) : Except RunError Unit :=
  match stages.findSome? fault? with
  | some e => .error e
  | none =>
    match repeatedNames [] (stages.map (·.name)) with
    | [] => .ok ()
    | names => .error (.config (.duplicateStages names))

end MeshTestbed.Stage
