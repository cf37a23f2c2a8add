import MeshTestbed.Proofs.Stage.Validation

namespace MeshTestbed.Stage

variable {stages others : List Stage} {stage : Stage} {e : RunError}
  {seen repeated front names : List String}

def tellRepeated (repeated : List String) : Except RunError Unit :=
  if repeated.isEmpty then .ok () else .error (.config (.duplicateStages repeated))

/-- One pass over the stages. It stops at a stage's own fault; a name that was seen before is kept
for the end. -/
def checkInOnePass (seen repeated : List String) : List Stage → Except RunError Unit
  | [] => tellRepeated repeated
  | stage :: rest =>
    match stage.fault? with
    | some e => .error e
    | none =>
      if seen.contains stage.name then checkInOnePass seen (repeated ++ [stage.name]) rest
      else checkInOnePass (stage.name :: seen) repeated rest

/-- A fault further on counts, and without one the names kept and those still to come. -/
theorem checkInOnePass_eq : checkInOnePass seen repeated stages =
    match stages.findSome? fault? with
    | some e => .error e
    | none => tellRepeated (repeated ++ repeatedNames seen (stages.map (·.name))) := by
  induction stages generalizing seen repeated with
  | nil => simp [checkInOnePass, repeatedNames]
  | cons stage rest ih =>
    rw [checkInOnePass, List.findSome?_cons, List.map_cons, repeatedNames]
    rcases hfault : stage.fault? with _ | e
    · dsimp only
      split
      · rw [ih, List.append_assoc, List.singleton_append]
      · rw [ih]
    · rfl

theorem checkAll_eq_inOnePass : checkAll stages = checkInOnePass [] [] stages := by
  rw [checkInOnePass_eq, List.nil_append, checkAll]
  rcases stages.findSome? fault? with _ | e
  · cases hnames : repeatedNames [] (stages.map (·.name)) <;> rfl
  · rfl

end MeshTestbed.Stage
