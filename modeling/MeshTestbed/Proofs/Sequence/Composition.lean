import MeshTestbed.Proofs.Sequence.Commands
import MeshTestbed.Run.Testbed

namespace MeshTestbed.Conductor

variable {σ : Type} {seq : Conductor σ}

def proceed (seq : Conductor σ) (stages : List Stage) :
    List StageRecord × Option Stop → RunM σ (List StageRecord × Option Stop)
  | (earlier, some stop) => pure (earlier, some stop)
  | (earlier, none) => do
    let (later, stop) ← seq.runStages stages
    return (earlier ++ later, stop)

theorem runStages_append {xs ys : List Stage} :
    seq.runStages (xs ++ ys) = seq.runStages xs >>= seq.proceed ys := by
  induction xs with
  | nil =>
    rw [List.nil_append, runStages, pure_bind, proceed]
    exact (bind_pure _).symm
  | cons stage rest ih =>
    rw [List.cons_append, runStages, runStages, bind_assoc]
    congr 1
    funext cancelled
    rcases cancelled with _ | reason
    · dsimp only
      rw [bind_assoc]
      congr 1
      funext r
      split
      · rw [bind_assoc]
        rfl
      · rw [ih, bind_assoc, bind_assoc]
        congr 1
        funext answer
        rcases answer with ⟨earlier, _ | stop⟩
        · rw [pure_bind, proceed, proceed, bind_assoc]
          rfl
        · rw [pure_bind, proceed, proceed, pure_bind]
    · dsimp only
      rw [pure_bind, proceed]

theorem run_append (direction other : Direction) (xs ys : List Stage) :
    seq.run direction (xs ++ ys) = (do
      let record ← seq.run direction xs
      if record.isComplete then return record.followedBy (← seq.run other ys)
      else return record) := by
  unfold run
  rw [runStages_append, bind_assoc, bind_assoc]
  congr 1
  funext answer
  rcases answer with ⟨earlier, _ | stop⟩
  · have hcomplete : SequenceRecord.isComplete ⟨direction, earlier, none⟩ = true := rfl
    rw [proceed, pure_bind, if_pos hcomplete, bind_assoc, bind_assoc]
    rfl
  · rw [proceed, pure_bind, pure_bind]
    rfl

theorem undoing_append {xs ys : List Stage} : undoing (xs ++ ys) = undoing ys ++ undoing xs := by
  simp [undoing]

/-- A list of stages may be cut anywhere. Forward the second part follows the first, and backward
the first the second, in either case unless the part before was stopped. -/
theorem sequences_compose (seq : Conductor σ) (xs ys : List Stage) :
    seq.carryOut (xs ++ ys) = (do
      let record ← seq.carryOut xs
      if record.isComplete then return record.followedBy (← seq.carryOut ys)
      else return record) ∧
    seq.undo (xs ++ ys) = (do
      let record ← seq.undo ys
      if record.isComplete then return record.followedBy (← seq.undo xs)
      else return record) := by
  constructor
  · exact run_append .forward .forward xs ys
  · rw [undo, undoing_append]
    exact run_append .backward .backward (undoing ys) (undoing xs)

end MeshTestbed.Conductor

namespace MeshTestbed.Testbed

variable {σ : Type} {t : Testbed σ}

/-- The cleanup of an uninstall is the end of its one sequence. -/
theorem uninstallSequence_eq :
    t.uninstallSequence = t.conductor.run .backward (t.plan.removal t.tool) := by
  have hremoval : t.plan.removal t.tool =
      Conductor.undoing (t.plan.lasting t.tool) ++ t.plan.cleanup := rfl
  rw [hremoval, Conductor.run_append .backward .forward]
  unfold uninstallSequence Conductor.undo
  congr 1
  funext record
  rcases hcomplete : record.isComplete with _ | _
  · rfl
  rcases hcleanup : t.plan.cleanup with _ | ⟨stage, rest⟩
  · have hstop : record.stop = none := by simpa [SequenceRecord.isComplete] using hcomplete
    rcases record with ⟨direction, results, stop⟩
    obtain rfl : stop = none := hstop
    simp [Conductor.run, Conductor.runStages, SequenceRecord.followedBy]
  · rfl

end MeshTestbed.Testbed
