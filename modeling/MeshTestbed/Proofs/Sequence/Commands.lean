import MeshTestbed.Proofs.Sequence.Course

namespace MeshTestbed.Conductor

variable {σ : Type}

/-- The commands that a record accounts for. -/
def commandsOf (seq : Conductor σ) (stage : Stage) (r : StageRecord) : List Call :=
  stage.action.call seq.tool ::
    match stage.readiness, r.waited with
    | some wait, some outcome => List.replicate outcome.queries.toNat (wait.query seq.tool)
    | _, _ => []

def commandsFor (seq : Conductor σ) (pairs : List (Stage × StageRecord)) : List Call :=
  pairs.flatMap fun (stage, r) => seq.commandsOf stage r

variable {seq : Conductor σ} {stage : Stage} {stages : List Stage} {r : StageRecord}
  {rs : List StageRecord} {earlier stop : Option Stop} {s s' t : Session σ}

theorem issued_command :
    Session.Issued seq.runner [stage.action.call seq.tool] s (seq.issued stage s) :=
  (Session.Issued.none rfl rfl).told.trans .call

theorem Settled.issued (h : Settled seq stage s r t) :
    Session.Issued seq.runner (seq.commandsOf stage r) s t := by
  cases h with
  | unawaited => simpa [commandsOf, waited_answered] using issued_command
  | awaited hwait _ hrun =>
    have hqueries := (Wait.effects_of_yields hrun).issued
    refine Session.Issued.told ?_
    simpa [commandsOf, hwait, waited_afterWait] using issued_command.trans hqueries

theorem issued_of_yields_perform (h : (seq.perform stage).Yields s r s') :
    Session.Issued seq.runner (seq.commandsOf stage r) s s' := by
  obtain ⟨r₀, t, hsettled, rfl, rfl⟩ := yields_perform_iff.1 h
  exact hsettled.issued.told

theorem Course.issued (h : Course seq stages s rs stop s') :
    Session.Issued seq.runner (seq.commandsFor (stages.zip rs)) s s' := by
  induction h with
  | done | preempted => exact .none rfl rfl
  | halted _ _ hperform =>
    simpa [commandsFor] using issued_of_yields_perform hperform
  | next _ hperform _ _ ih => exact (issued_of_yields_perform hperform).trans ih

theorem Continues.issued (h : Continues seq stages earlier s rs stop s') :
    Session.Issued seq.runner (seq.commandsFor (stages.zip rs)) s s' := by
  cases earlier with
  | none => exact Course.issued h
  | some =>
    obtain ⟨rfl, -, rfl⟩ := h
    rw [List.zip_nil_right]
    exact .none rfl rfl

end MeshTestbed.Conductor
