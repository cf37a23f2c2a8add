import Mathlib.Logic.ExistsUnique
import MeshTestbed.Proofs.Sequence.Course
import MeshTestbed.Rehearsal.Playbook

namespace MeshTestbed

inductive FailureMode where
  | notRun
  | rejected
  | overran
  | queryFailed
deriving DecidableEq

namespace StageRecord

variable {r : StageRecord} {policy : TimeoutResponse}

/-- The record shows this failure. -/
def FailedBy (r : StageRecord) (policy : TimeoutResponse) : FailureMode → Prop
  | .notRun => r.exitCode = none ∧ r.waited = none ∧ r.error.isSome = true
  | .rejected => r.exitCode ≠ some 0 ∧ r.tolerated = none ∧ r.waited = none ∧ r.error = none
  | .overran => policy = .escalate ∧ ∃ n ms seen, r.waited = some (.timedOut n ms seen)
  | .queryFailed => ∃ n error, r.waited = some (.commandFailed n error)

def IsReady (r : StageRecord) : Prop := ∀ outcome, r.waited = some outcome → outcome.isMet = true

/-- The fields of a record agree with its status. -/
def Consistent (r : StageRecord) (policy : TimeoutResponse) : Prop :=
  match r.status with
  | .succeeded =>
    r.exitCode = some 0 ∧ r.stderr = "" ∧ r.tolerated = none ∧ r.error = none ∧ r.IsReady
  | .tolerated =>
    r.exitCode ≠ some 0 ∧ r.tolerated.isSome = true ∧ r.error = none ∧ r.IsReady
  | .timedOut =>
    policy = .continue ∧ r.error = none ∧ ∃ n ms seen, r.waited = some (.timedOut n ms seen)
  | .cancelled => ∃ n reason, r.waited = some (.cancelled n reason) ∧ r.error = some reason
  | .failed => ∃! mode, r.FailedBy policy mode

theorem FailedBy.unique {mode mode' : FailureMode} (h : r.FailedBy policy mode)
    (h' : r.FailedBy policy mode') : mode = mode' := by
  cases mode <;> cases mode' <;> grind [FailedBy]

theorem consistent_of_failedBy (mode : FailureMode) (hstatus : r.status = .failed)
    (h : r.FailedBy policy mode) : r.Consistent policy := by
  rw [Consistent, hstatus]
  exact ⟨mode, h, fun _ h' => h'.unique h⟩

theorem Consistent.error_of_isOk (h : r.Consistent policy) (hok : r.status.isOk = true) :
    r.error = none := by
  unfold Consistent at h
  split at h <;> simp_all [Status.isOk]

theorem Consistent.afterWait {outcome : WaitEnding} (h : r.Consistent policy)
    (hok : r.status.isOk = true) : (r.afterWait policy outcome).Consistent policy := by
  have herror := h.error_of_isOk hok
  cases outcome with
  | satisfied n ms =>
    simp only [Consistent, StageRecord.afterWait, IsReady] at h ⊢
    split at h <;> simp_all [WaitEnding.isMet, Status.isOk]
  | timedOut n ms seen =>
    -- Here alone the record depends on what the stage is to do about its wait.
    cases policy with
    | «continue» => exact ⟨rfl, herror, n, ms, seen, rfl⟩
    | escalate => exact consistent_of_failedBy .overran rfl ⟨rfl, n, ms, seen, rfl⟩
  | commandFailed n error =>
    exact consistent_of_failedBy .queryFailed rfl ⟨n, error, rfl⟩
  | cancelled n reason => exact ⟨n, reason, rfl, rfl⟩

end StageRecord

namespace Conductor

variable {σ : Type} {seq : Conductor σ} {stage : Stage} {r : StageRecord} {s s' t : Session σ}

theorem consistent_answered : (seq.answered stage s).Consistent stage.onTimeout := by
  unfold answered StageRecord.afterCommand
  split
  · exact StageRecord.consistent_of_failedBy .notRun rfl ⟨rfl, rfl, rfl⟩
  next output _ =>
  split
  · next hok =>
    have hexit : output.exitCode = some 0 := by simpa [Completion.isOk] using hok
    exact ⟨hexit, rfl, rfl, rfl, by simp [StageRecord.IsReady, begun]⟩
  next hbad =>
  have hexit : output.exitCode ≠ some 0 := by simpa [Completion.isOk] using hbad
  rcases hlabel : seq.tolerance.label? stage.kind stage.effect output with _ | label
  · exact StageRecord.consistent_of_failedBy .rejected (by simp)
      ⟨hexit, by simp, rfl, rfl⟩
  · simp [StageRecord.Consistent, StageRecord.IsReady, begun, hexit]

theorem Settled.consistent (h : Settled seq stage s r t) : r.Consistent stage.onTimeout := by
  cases h with
  | unawaited => exact consistent_answered
  | awaited _ hok => exact consistent_answered.afterWait hok

theorem Settled.cancelled_eq (h : Settled seq stage s r t) (hstatus : r.status = .cancelled) :
    t.cancelled = r.error := by
  cases h with
  | unawaited => exact absurd hstatus status_answered_ne_cancelled
  | @awaited wait outcome t hwait hok hrun =>
    cases outcome with
    | cancelled n reason => exact (Wait.effects_of_yields hrun).reason n reason rfl
    | satisfied => exact absurd hstatus status_answered_ne_cancelled
    | timedOut =>
      rcases hpolicy : stage.onTimeout <;> simp [StageRecord.afterWait, hpolicy] at hstatus
    | commandFailed => cases hstatus

theorem record_of_yields_perform (h : (seq.perform stage).Yields s r s') :
    r.name = stage.name ∧ r.Consistent stage.onTimeout ∧
      (r.status = .cancelled → s'.cancelled = r.error) := by
  refine ⟨name_of_yields_perform h, ?_⟩
  obtain ⟨r₀, t, hsettled, rfl, rfl⟩ := yields_perform_iff.1 h
  exact ⟨hsettled.consistent, hsettled.cancelled_eq⟩

end Conductor

/-- A report accounts for every stage: each record is of its stage and consistent, and the stop is
at the last record or before the first stage that has none. -/
structure SequenceRecord.Faithful {σ : Type} (record : SequenceRecord) (stages : List Stage)
    (s : Session σ) : Prop where
  length : record.results.length ≤ stages.length
  results : ∀ p ∈ stages.zip record.results,
    p.2.name = p.1.name ∧ p.2.Consistent p.1.onTimeout
  ongoing : ∀ r ∈ record.results.dropLast, r.status.endsSequence = false
  complete : record.stop = none ↔
    record.results.length = stages.length ∧ ∀ r ∈ record.results, r.status.endsSequence = false
  stop : ∀ stop, record.stop = some stop →
    (∃ r, record.results.getLast? = some r ∧ r.status.endsSequence = true ∧
      stop.stage = r.name ∧ stop.status = r.status) ∨
    ((∀ r ∈ record.results, r.status.endsSequence = false) ∧ stop.status = .cancelled ∧
      ∃ stage, stages[record.results.length]? = some stage ∧ stop.stage = stage.name)
  reason : ∀ stop, record.stop = some stop → stop.status = .cancelled →
    s.cancelled = some stop.reason

namespace SequenceRecord.Faithful

variable {σ : Type} {direction : Direction} {stage : Stage} {rest : List Stage} {r : StageRecord}
  {rs : List StageRecord} {stop : Option Stop} {s : Session σ}

theorem cons (h : (SequenceRecord.mk direction rs stop).Faithful rest s)
    (hname : r.name = stage.name) (hconsistent : r.Consistent stage.onTimeout)
    (hgoes : r.status.endsSequence = false) :
    (SequenceRecord.mk direction (r :: rs) stop).Faithful (stage :: rest) s where
  length := Nat.succ_le_succ h.length
  results := by
    simp only [List.zip_cons_cons, List.forall_mem_cons]
    exact ⟨⟨hname, hconsistent⟩, h.results⟩
  ongoing := by
    have hongoing := h.ongoing
    cases rs with
    | nil => simp
    | cons => simpa [hgoes] using hongoing
  complete := by
    have hcomplete := h.complete
    simpa [hgoes] using hcomplete
  stop := by
    intro halt hhalt
    rcases h.stop halt hhalt with ⟨last, hlast, hends⟩ | ⟨hongoing, hstatus, hnext⟩
    · exact .inl ⟨last, by rw [List.getLast?_cons, hlast]; rfl, hends⟩
    · refine .inr ⟨?_, hstatus, ?_⟩
      · simpa [hgoes] using hongoing
      · simpa using hnext
  reason := h.reason

theorem of_keepsCancellation {record : SequenceRecord} {stages : List Stage} {s' : Session σ}
    (h : record.Faithful stages s) (hkeeps : s.KeepsCancellation s') : record.Faithful stages s' :=
  { h with reason := fun stop hstop hcancelled => hkeeps _ (h.reason stop hstop hcancelled) }

theorem exists_mem_zip {record : SequenceRecord} {stages : List Stage}
    (h : record.Faithful stages s) (hr : r ∈ record.results) :
    ∃ stage, (stage, r) ∈ stages.zip record.results := by
  rw [← List.map_snd_zip h.length] at hr
  obtain ⟨⟨stage, _⟩, hp, rfl⟩ := List.mem_map.1 hr
  exact ⟨stage, hp⟩

theorem exists_stage_of_stop {record : SequenceRecord} {stages : List Stage} {halt : Stop}
    (h : record.Faithful stages s) (hstop : record.stop = some halt) :
    ∃ stage ∈ stages, halt.stage = stage.name := by
  rcases h.stop halt hstop with ⟨r, hlast, -, hname, -⟩ | ⟨-, -, stage, hstage, hname⟩
  · obtain ⟨stage, hp⟩ := h.exists_mem_zip (List.mem_of_getLast? hlast)
    exact ⟨stage, (List.of_mem_zip hp).1, hname.trans (h.results _ hp).1⟩
  · exact ⟨stage, List.mem_of_getElem? hstage, hname⟩

end SequenceRecord.Faithful

namespace Conductor

variable {σ : Type} {seq : Conductor σ} {stage : Stage} {rest stages : List Stage}
  {r : StageRecord} {rs : List StageRecord} {stop : Option Stop} {direction : Direction}
  {s s' : Session σ}

theorem faithful_done : (SequenceRecord.mk direction [] none).Faithful [] s := by
  constructor <;> simp

theorem faithful_preempted {reason : String} (hcancelled : s.cancelled = some reason) :
    (SequenceRecord.mk direction [] (some ⟨stage.name, .cancelled, reason⟩)).Faithful
      (stage :: rest) s := by
  constructor <;> simp [hcancelled]

theorem faithful_halted (hname : r.name = stage.name) (hconsistent : r.Consistent stage.onTimeout)
    (hcancelled : r.status = .cancelled → s.cancelled = r.error)
    (hends : r.status.endsSequence = true) :
    (SequenceRecord.mk direction [r] (some ⟨r.name, r.status, haltReason r s⟩)).Faithful
      (stage :: rest) s where
  length := by simp
  results := by simp [hname, hconsistent]
  ongoing := by simp
  complete := by simp [hends]
  stop := by simp [hends]
  reason := by
    rintro _ ⟨⟩ (hstatus : r.status = .cancelled)
    -- The record of a cancelled stage has no diagnosis, so that the run gives the reason.
    have hfields := hconsistent
    simp only [StageRecord.Consistent, hstatus] at hfields
    obtain ⟨n, reason, -, herror⟩ := hfields
    simp [haltReason, StageRecord.diagnosis?, hstatus, hcancelled hstatus, herror]

theorem Course.faithful (h : Course seq stages s rs stop s') :
    (SequenceRecord.mk direction rs stop).Faithful stages s' := by
  induction h with
  | done => exact faithful_done
  | preempted _ _ hcancelled => exact faithful_preempted hcancelled
  | halted _ _ hperform hends =>
    obtain ⟨hname, hconsistent, hcancelled⟩ := record_of_yields_perform hperform
    exact faithful_halted hname hconsistent hcancelled hends
  | next _ hperform hgoes _ ih =>
    obtain ⟨hname, hconsistent, -⟩ := record_of_yields_perform hperform
    exact ih.cons hname hconsistent hgoes

/-- Two lists of stages make one faithful report, even if time goes by between them. -/
theorem Course.faithful_append {xs ys : List Stage} {rs₁ rs₂ : List StageRecord}
    {stop₁ stop₂ : Option Stop} {t u : Session σ} (h : Course seq xs s rs₁ stop₁ t)
    (hkeeps : t.KeepsCancellation u) (hthen : Continues seq ys stop₁ u rs₂ stop₂ s') :
    (SequenceRecord.mk direction (rs₁ ++ rs₂) (stop₁.or stop₂)).Faithful (xs ++ ys) s' := by
  induction h with
  | done => exact Course.faithful hthen
  | preempted _ _ hcancelled =>
    obtain ⟨rfl, rfl, rfl⟩ := hthen
    exact (faithful_preempted hcancelled).of_keepsCancellation hkeeps
  | halted _ _ hperform hends =>
    obtain ⟨rfl, rfl, rfl⟩ := hthen
    obtain ⟨hname, hconsistent, hcancelled⟩ := record_of_yields_perform hperform
    exact (faithful_halted hname hconsistent hcancelled hends).of_keepsCancellation hkeeps
  | next _ hperform hgoes _ ih =>
    obtain ⟨hname, hconsistent, -⟩ := record_of_yields_perform hperform
    exact (ih hkeeps hthen).cons hname hconsistent hgoes

/-- Whatever the stages, the tolerances, the runner and the cancellation. -/
theorem report_faithful {record : SequenceRecord}
    (h : (seq.run direction stages).Yields s record s') : record.Faithful stages s' :=
  (yields_run_iff.1 h).2.faithful

/-- Accepts every command, but its pods never get ready. -/
def rehearsal : Conductor (List Reply) where
  runner := .ofReplies { result := .ok { stdout := "web 0/1 Pending" } }
  tool := {}
  tolerance := .standard

def webStages : List Stage :=
  [.createNamespace "web",
    (Stage.applyFrom "apply-web" (some "web") "web.yaml").awaiting (.podsReady "web" none)
      .continue]

theorem report_faithful_of_interruption :
    ∃ record s', (rehearsal.run .forward webStages).Yields
        { memory := [], timer := some (12000, "signal") } record s' ∧
      record.Faithful webStages s' ∧
      record.stop = some ⟨"apply-web", .cancelled, "signal"⟩ := by
  let m := rehearsal.run .forward webStages
  let s : Session (List Reply) := { memory := [], timer := some (12000, "signal") }
  have hstop : (m.outcome s).1.toOption.bind (·.stop) =
      some ⟨"apply-web", .cancelled, "signal"⟩ := by decide +kernel
  have hok : (m.outcome s).1.isOk = true := by decide +kernel
  obtain ⟨record, s', hrun⟩ := RunM.exists_yields hok
  rw [show m.outcome s = (.ok record, s') from hrun] at hstop
  exact ⟨record, s', hrun, report_faithful hrun, hstop⟩

end Conductor

end MeshTestbed
