import MeshTestbed.Proofs.Sequence.Course

namespace MeshTestbed

namespace StageRecord

def opening (r : StageRecord) : Event := .stageStarted r.name r.kind r.command

/-- What is told of a stage that leaves this record. -/
def events (r : StageRecord) : List Event :=
  r.opening :: (r.waited.toList.map (.pollFinished r.name) ++ [.stageFinished r])

variable {r : StageRecord} {policy : TimeoutResponse} {outcome : WaitEnding}

theorem opening_afterWait : (r.afterWait policy outcome).opening = r.opening := by
  cases outcome <;> try rfl
  cases policy <;> rfl

end StageRecord

namespace Conductor

variable {σ : Type} {seq : Conductor σ} {stage : Stage} {stages : List Stage} {r : StageRecord}
  {rs : List StageRecord} {earlier stop : Option Stop} {s s' t : Session σ}

theorem opening_answered : (seq.answered stage s).opening =
    .stageStarted stage.name stage.kind (summarize (stage.action.call seq.tool).argv) := by
  unfold answered StageRecord.afterCommand
  split
  · rfl
  · split <;> rfl

theorem events_issued :
    (seq.issued stage s).events = s.events ++ [(seq.answered stage s).opening] := by
  rw [opening_answered]
  exact Session.events_call

theorem Settled.events_eq (h : Settled seq stage s r t) :
    t.events = s.events ++ r.opening :: r.waited.toList.map (.pollFinished r.name) := by
  cases h with
  | unawaited => simp [waited_answered, events_issued]
  | awaited _ _ hrun =>
    have hevents := (Wait.effects_of_yields hrun).events
    simp [waited_afterWait, StageRecord.opening_afterWait, name_afterWait, name_answered, hevents,
      events_issued]

theorem events_of_yields_perform (h : (seq.perform stage).Yields s r s') :
    s'.events = s.events ++ r.events := by
  obtain ⟨r₀, t, hsettled, rfl, rfl⟩ := yields_perform_iff.1 h
  rw [Session.events_told, hsettled.events_eq, List.append_assoc]
  rfl

/-- A stage that the cancellation comes before tells nothing. -/
theorem Course.events_eq (h : Course seq stages s rs stop s') :
    s'.events = s.events ++ rs.flatMap StageRecord.events := by
  induction h with
  | done | preempted => simp
  | halted _ _ hperform => simpa using events_of_yields_perform hperform
  | next _ hperform _ _ ih =>
    rw [ih, events_of_yields_perform hperform, List.flatMap_cons, List.append_assoc]

theorem Continues.events_eq (h : Continues seq stages earlier s rs stop s') :
    s'.events = s.events ++ rs.flatMap StageRecord.events := by
  cases earlier with
  | none => exact Course.events_eq h
  | some =>
    obtain ⟨rfl, -, rfl⟩ := h
    simp

end Conductor

end MeshTestbed
