import MeshTestbed.Proofs.Sequence.Course

/-!
What a record says of its stage, held against what the runner replied. A stage goes well if the
runner accepts its command and the replies to its queries meet the goal of its wait; it runs over if
they do not in time, and it is to go on without.
-/

namespace MeshTestbed

namespace Status

variable {status : Status}

theorem endsSequence_iff : status.endsSequence = true ↔ status = .failed ∨ status = .cancelled := by
  cases status <;> simp [endsSequence]

theorem goesOn_iff : status.endsSequence = false ↔ status ≠ .failed ∧ status ≠ .cancelled := by
  cases status <;> simp [endsSequence]

theorem isOk_iff : status.isOk = true ↔ status.endsSequence = false ∧ status ≠ .timedOut := by
  cases status <;> simp [endsSequence, isOk]

theorem ne_of_isOk (h : status.isOk = true) :
    status ≠ .failed ∧ status ≠ .cancelled ∧ status ≠ .timedOut := by
  obtain ⟨hgoes, hintime⟩ := isOk_iff.1 h
  obtain ⟨hfailed, hcancelled⟩ := goesOn_iff.1 hgoes
  exact ⟨hfailed, hcancelled, hintime⟩

end Status

namespace StageRecord

variable {r : StageRecord} {policy : TimeoutResponse} {outcome : WaitEnding}

theorem isOk_afterWait_iff (hok : r.status.isOk = true) :
    (r.afterWait policy outcome).status.isOk = true ↔ ∃ n ms, outcome = .satisfied n ms := by
  cases outcome with
  | satisfied n ms => exact ⟨fun _ => ⟨n, ms, rfl⟩, fun _ => hok⟩
  | timedOut => cases policy <;> simp [afterWait, Status.isOk]
  | commandFailed | cancelled => simp [afterWait, Status.isOk]

theorem timedOut_afterWait_iff (hok : r.status.isOk = true) :
    (r.afterWait policy outcome).status = .timedOut ↔
      policy = .continue ∧ ∃ n ms seen, outcome = .timedOut n ms seen := by
  cases outcome with
  | satisfied => simp [afterWait, Status.ne_of_isOk hok]
  | timedOut => cases policy <;> simp [afterWait]
  | commandFailed | cancelled => simp [afterWait]

theorem failed_afterWait_iff (hok : r.status.isOk = true) :
    (r.afterWait policy outcome).status = .failed ↔
      (∃ n error, outcome = .commandFailed n error) ∨
        policy = .escalate ∧ ∃ n ms seen, outcome = .timedOut n ms seen := by
  cases outcome with
  | satisfied => simp [afterWait, Status.ne_of_isOk hok]
  | timedOut => cases policy <;> simp [afterWait]
  | commandFailed | cancelled => simp [afterWait]

theorem cancelled_afterWait_iff (hok : r.status.isOk = true) :
    (r.afterWait policy outcome).status = .cancelled ↔
      ∃ n reason, outcome = .cancelled n reason := by
  cases outcome with
  | satisfied => simp [afterWait, Status.ne_of_isOk hok]
  | timedOut => cases policy <;> simp [afterWait]
  | commandFailed | cancelled => simp [afterWait]

end StageRecord

namespace Conductor

variable {σ : Type} {seq : Conductor σ} {stage : Stage} {wait : Wait} {outcome e : WaitEnding}
  {r : StageRecord} {s s' t : Session σ}

/-- To the command of a stage that starts here the runner replies with exit code zero, or with a
rejection that the table tolerates. -/
def Accepts (seq : Conductor σ) (stage : Stage) (s : Session σ) : Prop :=
  ∃ o, (seq.runner.reply s.memory (stage.action.call seq.tool)).1.result = .ok o ∧
    (o.exitCode = some 0 ∨ ∃ rule ∈ seq.tolerance,
      rule.kind = stage.kind ∧ rule.effect = stage.effect ∧ rule.accepts o = true)

/-- Once the command of the stage has been answered, the rounds of the wait come to this end. -/
def Awaits (seq : Conductor σ) (stage : Stage) (wait : Wait) (s : Session σ) (e : WaitEnding) :
    Prop :=
  ∃ n t, wait.Course seq.runner (wait.query seq.tool) (seq.issued stage s).now 0
    (seq.issued stage s) n e t

def GoesWell (seq : Conductor σ) (stage : Stage) (s : Session σ) : Prop :=
  seq.Accepts stage s ∧
    ∀ wait, stage.readiness = some wait → ∃ n ms, seq.Awaits stage wait s (.satisfied n ms)

def RunsOver (seq : Conductor σ) (stage : Stage) (s : Session σ) : Prop :=
  seq.Accepts stage s ∧ stage.onTimeout = .continue ∧
    ∃ wait n ms seen, stage.readiness = some wait ∧ seq.Awaits stage wait s (.timedOut n ms seen)

def Fails (seq : Conductor σ) (stage : Stage) (s : Session σ) : Prop :=
  ¬ seq.Accepts stage s ∨ ∃ wait, stage.readiness = some wait ∧
    ((∃ n error, seq.Awaits stage wait s (.commandFailed n error)) ∨
      stage.onTimeout = .escalate ∧ ∃ n ms seen, seq.Awaits stage wait s (.timedOut n ms seen))

def IsCutShort (seq : Conductor σ) (stage : Stage) (s : Session σ) : Prop :=
  seq.Accepts stage s ∧
    ∃ wait n reason, stage.readiness = some wait ∧ seq.Awaits stage wait s (.cancelled n reason)

/-- What a record tells of a stage that started here is so. -/
structure Tells (seq : Conductor σ) (stage : Stage) (s : Session σ) (r : StageRecord) : Prop where
  name_eq : r.name = stage.name
  accepted_iff : r.exitCode = some 0 ∨ r.tolerated.isSome = true ↔ seq.Accepts stage s
  waited_iff (e : WaitEnding) : r.waited = some e ↔
    seq.Accepts stage s ∧ ∃ wait, stage.readiness = some wait ∧ seq.Awaits stage wait s e
  isOk_iff : r.status.isOk = true ↔ seq.GoesWell stage s
  timedOut_iff : r.status = .timedOut ↔ seq.RunsOver stage s
  failed_iff : r.status = .failed ↔ seq.Fails stage s
  cancelled_iff : r.status = .cancelled ↔ seq.IsCutShort stage s

theorem answered_iff_accepts :
    ((seq.answered stage s).exitCode = some 0 ∨ (seq.answered stage s).tolerated.isSome = true ↔
      seq.Accepts stage s) ∧
    ((seq.answered stage s).status.isOk = true ↔ seq.Accepts stage s) := by
  have hreply : ((seq.announced stage s).call seq.runner (stage.action.call seq.tool)).1 =
    (seq.runner.reply s.memory (stage.action.call seq.tool)).1.result := rfl
  unfold answered Accepts
  rw [hreply]
  -- The command is not run, or it is rejected, or it exits with zero.
  rcases (seq.runner.reply s.memory (stage.action.call seq.tool)).1.result with err | o
  · simp [StageRecord.afterCommand, begun, Status.isOk]
  rcases hok : o.isOk with _ | _
  · have hexit : o.exitCode ≠ some 0 := by simpa [Completion.isOk] using hok
    have hlabel : (seq.tolerance.label? stage.kind stage.effect o).isSome = true ↔
        o.isOk = false ∧ _ := Tolerances.isSome_label?_iff
    rw [and_iff_right hok] at hlabel
    rcases hfound : seq.tolerance.label? stage.kind stage.effect o with _ | label <;>
      simp [StageRecord.afterCommand, Status.isOk, hok, hexit, hfound, ← hlabel]
  · have hexit : o.exitCode = some 0 := by simpa [Completion.isOk] using hok
    simp [StageRecord.afterCommand, begun, Status.isOk, hok, hexit]

/-- A wait that ended has come to that end only. -/
theorem awaits_iff_of_yields
    (h : (wait.run seq.runner seq.tool).Yields (seq.issued stage s) outcome t) :
    seq.Awaits stage wait s e ↔ outcome = e := by
  obtain ⟨-, n, -, hcourse⟩ := Wait.yields_run_iff.1 h
  constructor
  · rintro ⟨n', t', hcourse'⟩
    exact (hcourse.unique hcourse').2.1
  · rintro rfl
    exact ⟨n, t, hcourse⟩

theorem failed_answered_iff :
    (seq.answered stage s).status = .failed ↔ ¬ seq.Accepts stage s := by
  rw [← answered_iff_accepts.2]
  rcases status_answered seq stage s with h | h | h <;> simp [h, Status.isOk]

theorem tells_answered (hnone : stage.readiness = none ∨ ¬ seq.Accepts stage s) :
    seq.Tells stage s (seq.answered stage s) := by
  have hunawaited (haccepts : seq.Accepts stage s) : stage.readiness = none :=
    hnone.resolve_right (not_not_intro haccepts)
  constructor
  case name_eq => exact name_answered
  case accepted_iff => exact answered_iff_accepts.1
  case isOk_iff =>
    rw [answered_iff_accepts.2]
    exact ⟨fun haccepts => ⟨haccepts, by simp [hunawaited haccepts]⟩, And.left⟩
  case failed_iff =>
    rw [failed_answered_iff]
    refine ⟨.inl, fun hfails haccepts => ?_⟩
    simp [Fails, haccepts, hunawaited haccepts] at hfails
  -- Neither has there been a wait nor does the status say that there was.
  case waited_iff =>
    intro e
    simp +contextual [waited_answered, hunawaited]
  case timedOut_iff =>
    simp +contextual [RunsOver, status_answered_ne_timedOut, hunawaited]
  case cancelled_iff =>
    simp +contextual [IsCutShort, status_answered_ne_cancelled, hunawaited]

theorem tells_afterWait (hwait : stage.readiness = some wait)
    (haccepts : seq.Accepts stage s)
    (hrun : (wait.run seq.runner seq.tool).Yields (seq.issued stage s) outcome t) :
    seq.Tells stage s ((seq.answered stage s).afterWait stage.onTimeout outcome) := by
  have hok : (seq.answered stage s).status.isOk = true := answered_iff_accepts.2.2 haccepts
  have hawaits (e : WaitEnding) : seq.Awaits stage wait s e ↔ outcome = e :=
    awaits_iff_of_yields hrun
  constructor
  case name_eq => exact name_afterWait.trans name_answered
  case accepted_iff =>
    rw [command_afterWait.1, command_afterWait.2]
    exact answered_iff_accepts.1
  case waited_iff => simp [waited_afterWait, hwait, haccepts, hawaits]
  case isOk_iff =>
    simp [StageRecord.isOk_afterWait_iff hok, GoesWell, hwait, haccepts, hawaits]
  case timedOut_iff =>
    simp [StageRecord.timedOut_afterWait_iff hok, RunsOver, hwait, haccepts, hawaits]
  case failed_iff =>
    simp [StageRecord.failed_afterWait_iff hok, Fails, hwait, haccepts, hawaits]
  case cancelled_iff =>
    simp [StageRecord.cancelled_afterWait_iff hok, IsCutShort, hwait, haccepts, hawaits]

theorem Settled.tells (h : Settled seq stage s r t) : seq.Tells stage s r := by
  cases h with
  | unawaited hnone =>
    refine tells_answered (hnone.imp_right fun hbad haccepts => ?_)
    simp [answered_iff_accepts.2.2 haccepts] at hbad
  | awaited hwait hok hrun => exact tells_afterWait hwait (answered_iff_accepts.2.1 hok) hrun

theorem tells_of_yields_perform (h : (seq.perform stage).Yields s r s') : seq.Tells stage s r := by
  obtain ⟨r₀, t, hsettled, rfl, -⟩ := yields_perform_iff.1 h
  exact { hsettled.tells with }

end Conductor

end MeshTestbed
