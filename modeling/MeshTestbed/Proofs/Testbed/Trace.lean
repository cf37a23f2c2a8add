import MeshTestbed.Proofs.Sequence.Events
import MeshTestbed.Proofs.Testbed.Verdict

namespace MeshTestbed.Testbed

variable {σ : Type} {t : Testbed σ} {stages : List Stage} {sequence : SequenceRecord}
  {images : Option Inventory} {calls : List Call} {s s' : Session σ}

theorem events_afterCalls {runner : Runner σ} :
    (s.afterCalls runner calls).events = s.events := by
  induction calls generalizing s with
  | nil => rfl
  | cons c calls ih => exact ih.trans Session.events_call

theorem Installed.events_eq (h : Installed t s sequence images s') :
    s'.events = s.events ++ sequence.results.flatMap StageRecord.events := by
  cases h with
  | intro hkept _ hlisted hremoved =>
    rw [hremoved.events_eq, hlisted, events_afterCalls, hkept.events_eq, List.append_assoc,
      List.flatMap_append]

/-- What is told of a run from its beginning to its end. -/
def trace (runId operation : String) (verdict : Verdict) (rs : List StageRecord) : List Event :=
  .runStarted runId operation ::
    (rs.flatMap StageRecord.events ++ [.runFinished runId verdict.text])

end MeshTestbed.Testbed
