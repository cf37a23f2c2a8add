import MeshTestbed.Proofs.Sequence.Report
import MeshTestbed.Proofs.Wait.Timeline

/-!
A stage leaves a record of whatever happens, unless its wait asks too much of the clock or of the
count of queries. The checks of a wait compare the timeout with the interval, but with nothing else,
and so rule out neither.
-/

namespace MeshTestbed

namespace Timeline

variable {tl : Timeline} {n i : Nat} {e : WaitEnding}

theorem le_of_stop (h : tl.stop? i = some (n, e)) : n ≤ i + 1 := by
  unfold stop? at h
  dsimp only at h
  repeat' split at h
  all_goals cases h
  all_goals omega

theorem finish_lt_timeout (h : tl.stop? i = none) : tl.finish i < tl.timeout := by
  unfold stop? at h
  dsimp only at h
  repeat' split at h
  all_goals first
    | omega
    | cases h

theorem EndsWith.mul_pause_lt (h : tl.EndsWith (n + 2) e) : n * tl.pause < tl.timeout := by
  obtain ⟨i, hstop, hopen⟩ := h
  have hi : n + 1 ≤ i := by
    have hle := le_of_stop hstop
    omega
  have hearly : tl.finish n < tl.timeout := finish_lt_timeout (hopen n (by omega))
  have hpauses : n * tl.pause ≤ tl.start n := mul_pause_le_start n
  unfold finish at hearly
  omega

end Timeline

namespace Wait

variable {σ : Type} {wait : Wait} {runner : Runner σ} {tool : ClusterTool} {query : Call}
  {started left made : Nat} {f : Fault} {s : Session σ}

theorem interval_pos (h : wait.fault? = none) : 0 < wait.interval.toNanos := by
  unfold fault? at h
  split at h
  · cases h
  · next hzero =>
    have hne : wait.interval.toNanos ≠ 0 := by simpa [Span.isZero] using hzero
    omega

theorem exists_course (hinterval : 0 < wait.interval.toNanos) :
    ∃ n e s', (wait.timeline runner query s).EndsWith n e ∧
      Course wait runner query s.now 0 s n e s' := by
  have hpositive : 0 < wait.interval.ceilMillis := by
    unfold Span.ceilMillis
    omega
  have hpause : 0 < (wait.timeline runner query s).pause := by
    change 0 < min wait.interval.ceilMillis Session.longestSleep
    unfold Session.longestSleep
    omega
  obtain ⟨n, e, i, hstop, hopen⟩ := Timeline.exists_endsWith hpause
  obtain ⟨s', hcourse, -⟩ := onTime_zero.course hpositive (Nat.zero_le i) hstop hopen
  exact ⟨n, e, s', ⟨i, hstop, hopen⟩, hcourse⟩

/-- The wait cannot be carried through when it starts in this session. -/
def Overflows (wait : Wait) (runner : Runner σ) (tool : ClusterTool) (s : Session σ) : Fault → Prop
  | .deadlineOverflow => s.canWait wait.timeout = false
  | .queryOverflow => s.canWait wait.timeout = true ∧
      ∃ n e, (wait.timeline runner (wait.query tool) s).EndsWith n e ∧ UInt32.size ≤ n

theorem fault_resume (h : ((wait.resume runner query started left made).outcome s).1 = .error f) :
    f = .queryOverflow := by
  induction left generalizing made s with
  | zero =>
    rw [resume, RunM.outcome_cancelled_bind] at h
    split at h
    · cases h
    · cases h
      rfl
  | succ left ih =>
    rw [resume, RunM.outcome_cancelled_bind] at h
    split at h
    · cases h
    rw [RunM.outcome_call_bind] at h
    split at h
    · cases h
    rw [RunM.outcome_get_bind] at h
    dsimp only at h
    split at h
    · cases h
    split at h
    · cases h
    rw [RunM.outcome_sleep_bind] at h
    split at h
    · cases h
    · exact ih h

theorem outcome_run_of_canWait (hcan : s.canWait wait.timeout = true) :
    (wait.run runner tool).outcome s =
      (wait.resume runner (wait.query tool) s.now maxQueries 0).outcome s := by
  rw [run, RunM.outcome_get_bind, if_pos hcan]

theorem fault_run (hinterval : 0 < wait.interval.toNanos)
    (h : wait.Overflows runner tool s f) : ((wait.run runner tool).outcome s).1 = .error f := by
  cases f with
  | deadlineOverflow =>
    have hcannot : ¬ s.canWait wait.timeout = true := Bool.eq_false_iff.1 h
    rw [run, RunM.outcome_get_bind, if_neg hcannot]
    rfl
  | queryOverflow =>
    obtain ⟨hcan, n, e, hends, hn⟩ := h
    rcases hanswer : ((wait.run runner tool).outcome s) with ⟨f | e', s'⟩
    · have hfault : f = .queryOverflow := by
        apply fault_resume
        rw [← outcome_run_of_canWait hcan, hanswer]
      rw [hfault]
    · -- An answer would have counted all the queries of the timeline.
      obtain ⟨-, n', hn', hcourse'⟩ := yields_run_iff.1 hanswer
      obtain ⟨n'', e'', t, hends'', hcourse⟩ := exists_course hinterval
      have hsame : n'' = n := (hends''.unique hends).1
      have hcounted : n' = n'' := (hcourse'.unique hcourse).1
      omega

theorem yields_run_of_not_overflows (hinterval : 0 < wait.interval.toNanos)
    (h : ∀ f, ¬ wait.Overflows runner tool s f) : ∃ e s', (wait.run runner tool).Yields s e s' := by
  have hcan : s.canWait wait.timeout = true := by
    have hfits := h .deadlineOverflow
    simpa [Overflows] using hfits
  obtain ⟨n, e, s', hends, hcourse⟩ := exists_course hinterval
  have hn : n < UInt32.size := by
    by_contra hmany
    exact h .queryOverflow ⟨hcan, n, e, hends, by omega⟩
  exact ⟨e, s', yields_run_iff.2 ⟨hcan, n, hn, hcourse⟩⟩

/-- A wait of seven weeks at most is carried through if the clock can show its deadline. -/
theorem not_overflows_of_short (hcan : s.canWait wait.timeout = true)
    (hinterval : 0 < wait.interval.toNanos)
    (hshort : wait.timeout.ceilMillis ≤ 49 * 86400000) : ¬ wait.Overflows runner tool s f := by
  intro h
  cases f with
  | deadlineOverflow =>
    have hcannot : s.canWait wait.timeout = false := h
    simp [hcan] at hcannot
  | queryOverflow =>
    obtain ⟨-, n, e, hends, hn⟩ := h
    obtain ⟨m, rfl⟩ : ∃ m, n = m + 2 := ⟨n - 2, by unfold UInt32.size at hn; omega⟩
    have hpauses : m * min wait.interval.ceilMillis Session.longestSleep <
        wait.timeout.ceilMillis := hends.mul_pause_lt
    have hpause : 0 < min wait.interval.ceilMillis Session.longestSleep := by
      unfold Span.ceilMillis Session.longestSleep
      omega
    have hmul := Nat.le_mul_of_pos_right m hpause
    unfold UInt32.size at hn
    omega

end Wait

namespace Conductor

variable {σ : Type} {seq : Conductor σ} {stage : Stage} {f : Fault} {s : Session σ}

/-- The wait of the stage is due, but cannot be carried through. -/
def Overflows (seq : Conductor σ) (stage : Stage) (s : Session σ) (f : Fault) : Prop :=
  ∃ wait, stage.readiness = some wait ∧ (seq.answered stage s).status.isOk = true ∧
    wait.Overflows seq.runner seq.tool (seq.issued stage s) f

theorem fault_perform (h : seq.Overflows stage s f)
    (hvalid : ∀ wait, stage.readiness = some wait → wait.fault? = none) :
    ((seq.perform stage).outcome s).1 = .error f := by
  obtain ⟨wait, hwait, hok, hoverflows⟩ := h
  have hfault := Wait.fault_run (Wait.interval_pos (hvalid wait hwait)) hoverflows
  have hsettle : seq.settle stage (seq.answered stage s) =
      seq.awaitReadiness stage wait (seq.answered stage s) := by
    simp [settle, hwait, hok]
  rw [outcome_perform, hsettle]
  exact RunM.fault_bind (RunM.fault_bind hfault)

theorem yields_perform_of_not_overflows (h : ∀ f, ¬ seq.Overflows stage s f)
    (hvalid : ∀ wait, stage.readiness = some wait → wait.fault? = none) :
    ∃ r s', (seq.perform stage).Yields s r s' := by
  obtain ⟨r, t, hsettled⟩ : ∃ r t, Settled seq stage s r t := by
    rcases hwait : stage.readiness with _ | wait
    · exact ⟨_, _, .unawaited (.inl hwait)⟩
    by_cases hok : (seq.answered stage s).status.isOk = true
    · have hfits : ∀ f, ¬ wait.Overflows seq.runner seq.tool (seq.issued stage s) f :=
        fun f hoverflows => h f ⟨wait, hwait, hok, hoverflows⟩
      have hinterval : 0 < wait.interval.toNanos := Wait.interval_pos (hvalid wait hwait)
      obtain ⟨e, t, hrun⟩ := Wait.yields_run_of_not_overflows hinterval hfits
      exact ⟨_, _, .awaited hwait hok hrun⟩
    · exact ⟨_, _, .unawaited (.inr (Bool.eq_false_iff.2 hok))⟩
  exact ⟨_, _, yields_perform_iff.2 ⟨r, t, hsettled, rfl, rfl⟩⟩

/-- A stage whose wait passes the checks leaves its record unless the deadline is past the last
instant of the clock, or the queries are more than can be counted. -/
theorem perform_faults_iff_overflows (seq : Conductor σ) (stage : Stage) (s : Session σ)
    (hvalid : ∀ wait, stage.readiness = some wait → wait.fault? = none) :
    ((∃ r s', (seq.perform stage).Yields s r s') ↔ ∀ f, ¬ seq.Overflows stage s f) ∧
    ∀ f, ((seq.perform stage).outcome s).1 = .error f ↔ seq.Overflows stage s f := by
  constructor
  · constructor
    · rintro ⟨r, s', hyields⟩ f hoverflows
      have hfault := fault_perform hoverflows hvalid
      rw [show (seq.perform stage).outcome s = (.ok r, s') from hyields] at hfault
      cases hfault
    · intro h
      exact yields_perform_of_not_overflows h hvalid
  · intro f
    constructor
    · intro hfault
      by_cases h : ∃ g, seq.Overflows stage s g
      · obtain ⟨g, hoverflows⟩ := h
        have hfault' := fault_perform hoverflows hvalid
        obtain rfl : f = g := by simpa [hfault] using hfault'
        exact hoverflows
      · obtain ⟨r, s', hyields⟩ := yields_perform_of_not_overflows (not_exists.1 h) hvalid
        rw [show (seq.perform stage).outcome s = (.ok r, s') from hyields] at hfault
        cases hfault
    · intro h
      exact fault_perform h hvalid

def awaitingWeb (timeout : Span) : Stage :=
  (Stage.applyFrom "apply-web" (some "web") "web.yaml").awaiting
    ((Wait.podsReady "web" none).paced (.ofSecs 5) timeout) .continue

def endlessTimeout : Span := .ofSecs 18446744073709551615

theorem perform_faults_iff_overflows_of_web :
    (∃ r s', (rehearsal.perform (awaitingWeb (.ofSecs 60))).Yields { memory := [] } r s') ∧
    ((rehearsal.perform (awaitingWeb endlessTimeout)).outcome { memory := [] }).1 =
      .error .deadlineOverflow := by
  constructor
  · obtain ⟨hreturns, -⟩ := perform_faults_iff_overflows rehearsal (awaitingWeb (.ofSecs 60))
      { memory := [] } (by rintro _ ⟨⟩; decide)
    refine hreturns.2 ?_
    rintro f ⟨wait, ⟨⟩, -, hoverflows⟩
    exact Wait.not_overflows_of_short (by decide +kernel) (by decide) (by decide) hoverflows
  · obtain ⟨-, hfault⟩ := perform_faults_iff_overflows rehearsal (awaitingWeb endlessTimeout)
      { memory := [] } (by rintro _ ⟨⟩; decide)
    refine (hfault .deadlineOverflow).2 ⟨_, rfl, by decide +kernel, ?_⟩
    change Session.canWait _ _ = false
    decide +kernel

/-- The checks pass a wait whose deadline is past the last instant of the clock. Its stage leaves no
record, though its command has been handed over by then. -/
theorem perform_faults_of_endless_timeout :
    (∀ wait, (awaitingWeb endlessTimeout).readiness = some wait → wait.fault? = none) ∧
    (¬ ∃ r s', (rehearsal.perform (awaitingWeb endlessTimeout)).Yields { memory := [] } r s') ∧
    ((rehearsal.perform (awaitingWeb endlessTimeout)).outcome { memory := [] }).2.calls =
      [(awaitingWeb endlessTimeout).action.call rehearsal.tool] := by
  refine ⟨by rintro _ ⟨⟩; decide, ?_, by decide +kernel⟩
  rintro ⟨r, s', hyields⟩
  have hfault : ((rehearsal.perform (awaitingWeb endlessTimeout)).outcome
      { memory := [] }).1.isOk = false := by decide +kernel
  rw [hyields] at hfault
  cases hfault

end Conductor

end MeshTestbed
