import Mathlib.Algebra.Order.Floor.Div
import MeshTestbed.Proofs.Sequence.Faults

namespace MeshTestbed.Wait

variable {σ : Type} {wait : Wait} {runner : Runner σ} {tool : ClusterTool} {query : Call}
  {started left made n : Nat} {e : WaitEnding} {f : Fault} {s s' : Session σ}

def pauseNanos (wait : Wait) : Nat :=
  min wait.interval.ceilMillis Session.longestSleep * 1000000

/-- One query at the start of the wait, and one after each pause that begins before the deadline. -/
def mostQueries (wait : Wait) : Nat := wait.timeout.toNanos ⌈/⌉ wait.pauseNanos + 1

theorem pauseNanos_pos (hinterval : 0 < wait.interval.toNanos) : 0 < wait.pauseNanos := by
  unfold pauseNanos Span.ceilMillis Session.longestSleep
  omega

theorem Course.issued_all (h : Course wait runner query started 0 s n e s') :
    Session.Issued runner (List.replicate n query) s s' := by
  simpa using h.issued

theorem le_mostQueries (hinterval : 0 < wait.interval.toNanos)
    (h : (wait.timeline runner query s).EndsWith n e) : n ≤ wait.mostQueries := by
  unfold mostQueries
  obtain hfew | ⟨m, rfl⟩ : n ≤ 1 ∨ ∃ m, n = m + 2 := by
    rcases n with _ | _ | m
    · exact .inl (Nat.zero_le 1)
    · exact .inl (Nat.le_refl 1)
    · exact .inr ⟨m, rfl⟩
  · omega
  · -- Every pause but the last ends before the deadline.
    have hearly : m * min wait.interval.ceilMillis Session.longestSleep <
        wait.timeout.ceilMillis := h.mul_pause_lt
    have hpauses : wait.pauseNanos * m < wait.timeout.toNanos := by
      have hmillis : wait.timeout.ceilMillis = (wait.timeout.toNanos + 999999) / 1000000 := rfl
      rw [pauseNanos, Nat.mul_comm, ← Nat.mul_assoc]
      omega
    have hquotient : ¬ wait.timeout.toNanos ⌈/⌉ wait.pauseNanos ≤ m := by
      rw [ceilDiv_le_iff_le_mul (pauseNanos_pos hinterval)]
      omega
    omega

theorem issued_of_fault_resume
    (h : (wait.resume runner query started left made).outcome s = (.error f, s')) :
    Session.Issued runner (List.replicate left query) s s' := by
  induction left generalizing made s with
  | zero =>
    rw [resume, RunM.outcome_cancelled_bind] at h
    split at h
    · cases h
    · cases h
      exact .none rfl rfl
  | succ left ih =>
    rw [resume, RunM.outcome_cancelled_bind] at h
    split at h
    · cases h
    rw [RunM.outcome_call_bind] at h
    split at h
    · cases h
    rw [RunM.outcome_get_bind] at h
    dsimp only at h
    split at h
    · cases h
    split at h
    · cases h
    rw [RunM.outcome_sleep_bind] at h
    split at h
    · cases h
    · exact (Session.Issued.call.trans_none Session.calls_sleep Session.memory_sleep).trans (ih h)

/-- Whatever comes of a wait, it makes no more queries than its timeline has. -/
theorem issued_of_outcome {answer : Except Fault WaitEnding}
    (hinterval : 0 < wait.interval.toNanos)
    (h : (wait.run runner tool).outcome s = (answer, s')) :
    ∃ n e, (wait.timeline runner (wait.query tool) s).EndsWith n e ∧
      ∃ k ≤ n, Session.Issued runner (List.replicate k (wait.query tool)) s s' := by
  obtain ⟨n, e, t, hends, hcourse⟩ : ∃ n e t,
      (wait.timeline runner (wait.query tool) s).EndsWith n e ∧
        Course wait runner (wait.query tool) s.now 0 s n e t := exists_course hinterval
  refine ⟨n, e, hends, ?_⟩
  rcases answer with f | e'
  · by_cases hcan : s.canWait wait.timeout = true
    · -- A course that could be counted would have answered.
      have hmany : UInt32.size ≤ n := by
        by_contra hcounted
        have hyields := yields_run_iff.2 ⟨hcan, n, Nat.lt_of_not_ge hcounted, hcourse⟩
        rw [RunM.Yields, h] at hyields
        cases hyields
      rw [outcome_run_of_canWait hcan] at h
      exact ⟨maxQueries, by unfold maxQueries; omega, issued_of_fault_resume h⟩
    · rw [run, RunM.outcome_get_bind, if_neg hcan] at h
      cases h
      exact ⟨0, Nat.zero_le n, .none rfl rfl⟩
  · obtain ⟨-, n', -, hcourse'⟩ := yields_run_iff.1 h
    obtain ⟨rfl, -, rfl⟩ := hcourse'.unique hcourse
    exact ⟨n', Nat.le_refl n', hcourse'.issued_all⟩

/-- Rejects every command at once, without a word. -/
def mute : Runner Unit where
  reply _ _ := ({ result := .ok { exitCode := some 1 } }, ())

abbrev muteTimeline (wait : Wait) (query : Call) : Timeline :=
  wait.timeline mute query { memory := () }

theorem judge_mute (goal : Goal) : goal.judge { exitCode := some 1 } = ⟨false, ""⟩ := by
  have hfailed : Completion.isOk { exitCode := some 1 } = false := by decide
  have hsilent : Text.trimmed "" = "" := by decide
  have hmarks : Text.containsAny "" Goal.goneMarks = false := by decide
  simp [Goal.judge, hfailed, Goal.judgeFailure, hsilent, hmarks]

theorem finish_mute (i : Nat) :
    (wait.muteTimeline query).finish i = i * (wait.muteTimeline query).pause := by
  have hinstant : ∀ i, ((wait.muteTimeline query).reply i).duration = 0 := fun _ => rfl
  have hstart : (wait.muteTimeline query).start i = i * (wait.muteTimeline query).pause := by
    induction i with
    | zero => exact (Nat.zero_mul _).symm
    | succ i ih => rw [Timeline.start, ih, hinstant, Nat.succ_mul, Nat.add_zero]
  rw [Timeline.finish, hstart, hinstant, Nat.add_zero]

theorem late_mute_iff (hinterval : 0 < wait.interval.toNanos) (i : Nat) :
    (wait.muteTimeline query).timeout ≤ (wait.muteTimeline query).finish i ↔
      wait.timeout.toNanos ⌈/⌉ wait.pauseNanos ≤ i := by
  have hmillis : (wait.muteTimeline query).timeout =
      (wait.timeout.toNanos + 999999) / 1000000 := rfl
  have hpause : wait.pauseNanos = (wait.muteTimeline query).pause * 1000000 := rfl
  rw [ceilDiv_le_iff_le_mul (pauseNanos_pos hinterval), finish_mute, hmillis, hpause,
    Nat.mul_comm _ i, ← Nat.mul_assoc]
  omega

theorem stop_mute (i : Nat) :
    (wait.muteTimeline query).stop? i =
      if (wait.muteTimeline query).timeout ≤ (wait.muteTimeline query).finish i then
        some (i + 1, .timedOut (.ofNat (i + 1))
          (elapsedMs 0 ((wait.muteTimeline query).finish i)) "")
      else none := by
  have huncancelled : (wait.muteTimeline query).firstCancellation i = none := by
    induction i with
    | zero => rfl
    | succ i ih =>
      rw [Timeline.firstCancellation, ih]
      rfl
  have hreply : ((wait.muteTimeline query).reply i).result = .ok { exitCode := some 1 } := rfl
  rw [Timeline.stop?, Timeline.cancelledBefore, huncancelled]
  simp only [Option.filter_none, Option.map_none, hreply, judge_mute, Bool.false_eq_true, if_false]

theorem endsWith_mute (query : Call) (hinterval : 0 < wait.interval.toNanos) :
    ∃ ms, (wait.muteTimeline query).EndsWith wait.mostQueries
      (.timedOut (.ofNat wait.mostQueries) ms "") := by
  let last := wait.timeout.toNanos ⌈/⌉ wait.pauseNanos
  refine ⟨elapsedMs 0 ((wait.muteTimeline query).finish last), last, ?_, fun j hj => ?_⟩
  · rw [stop_mute, if_pos ((late_mute_iff hinterval _).2 (Nat.le_refl _)), mostQueries]
  · rw [stop_mute, if_neg]
    rw [late_mute_iff hinterval]
    exact Nat.not_le.2 hj

theorem run_mute (hinterval : 0 < wait.interval.toNanos)
    (hcan : ({ memory := () } : Session Unit).canWait wait.timeout = true)
    (hcounted : wait.mostQueries < UInt32.size) :
    ∃ ms s', (wait.run mute tool).Yields { memory := () }
        (.timedOut (.ofNat wait.mostQueries) ms "") s' ∧
      s'.calls = List.replicate wait.mostQueries (wait.query tool) := by
  obtain ⟨ms, hends⟩ := endsWith_mute (wait.query tool) hinterval
  obtain ⟨n, e, s', hends', hcourse⟩ : ∃ n e s',
      (wait.muteTimeline (wait.query tool)).EndsWith n e ∧
        Course wait mute (wait.query tool) 0 0 { memory := () } n e s' := exists_course hinterval
  have hcalls : s'.calls = List.replicate n (wait.query tool) := by
    rw [hcourse.issued_all.calls_eq]
    rfl
  obtain ⟨rfl, rfl⟩ := hends'.unique hends
  exact ⟨ms, s', yields_run_iff.2 ⟨hcan, wait.mostQueries, hcounted, hcourse⟩, hcalls⟩

theorem ceilDiv_eq_div_add {a b : Nat} (ha : 0 < a) (hb : 0 < b) :
    a ⌈/⌉ b = a / b + if b ∣ a then 0 else 1 := by
  obtain ⟨a, rfl⟩ : ∃ k, a = k + 1 := ⟨a - 1, by omega⟩
  rw [Nat.ceilDiv_eq_add_pred_div, Nat.succ_div, show a + 1 + b - 1 = a + b by omega,
    Nat.add_div_right a hb]
  split <;> omega

theorem timeout_pos (h : wait.fault? = none) : 0 < wait.timeout.toNanos := by
  have hinterval := interval_pos h
  unfold fault? at h
  split at h
  · cases h
  split at h
  · cases h
  · omega

theorem interval_le_pauseNanos (hshort : wait.interval.ceilMillis ≤ Session.longestSleep) :
    wait.interval.toNanos ≤ wait.pauseNanos := by
  rw [pauseNanos, Nat.min_eq_left hshort, Span.ceilMillis]
  omega

theorem pauseNanos_eq (hshort : wait.interval.ceilMillis ≤ Session.longestSleep)
    (hwhole : 1000000 ∣ wait.interval.toNanos) : wait.pauseNanos = wait.interval.toNanos := by
  rw [pauseNanos, Nat.min_eq_left hshort, Span.ceilMillis]
  omega

/-- A wait that passes the checks makes at most `mostQueries` queries, whatever the runner, the
cancellation and the ending, and may make as many. If the clock can sleep through the interval, that
is the quotient of timeout and interval plus one, or plus two if the interval does not divide the
timeout. -/
theorem queries_within_window (wait : Wait) (h : wait.fault? = none) :
    (∀ (σ : Type) (runner : Runner σ) (tool : ClusterTool) (s s' : Session σ)
      (answer : Except Fault WaitEnding), (wait.run runner tool).outcome s = (answer, s') →
      ∃ n ≤ wait.mostQueries, s'.calls = s.calls ++ List.replicate n (wait.query tool)) ∧
    (({ memory := () } : Session Unit).canWait wait.timeout = true →
      wait.mostQueries < UInt32.size → ∀ tool : ClusterTool,
      ∃ ms s', (wait.run mute tool).Yields { memory := () }
          (.timedOut (.ofNat wait.mostQueries) ms "") s' ∧
        s'.calls = List.replicate wait.mostQueries (wait.query tool)) ∧
    (wait.interval.ceilMillis ≤ Session.longestSleep →
      wait.mostQueries ≤ wait.timeout.toNanos / wait.interval.toNanos +
          (if wait.interval.toNanos ∣ wait.timeout.toNanos then 1 else 2) ∧
      (1000000 ∣ wait.interval.toNanos →
        wait.mostQueries = wait.timeout.toNanos / wait.interval.toNanos +
          (if wait.interval.toNanos ∣ wait.timeout.toNanos then 1 else 2))) := by
  have hinterval := interval_pos h
  refine ⟨fun σ runner tool s s' answer hrun => ?_, fun hcan hcounted tool => ?_, fun hshort => ?_⟩
  · obtain ⟨n, e, hends, k, hk, hissued⟩ := issued_of_outcome hinterval hrun
    exact ⟨k, hk.trans (le_mostQueries hinterval hends), hissued.calls_eq⟩
  · exact run_mute hinterval hcan hcounted
  · -- The quotient with its remainder is the quotient rounded up.
    have hceil := ceilDiv_eq_div_add (timeout_pos h) hinterval
    have hmost : wait.timeout.toNanos / wait.interval.toNanos +
        (if wait.interval.toNanos ∣ wait.timeout.toNanos then 1 else 2) =
          wait.timeout.toNanos ⌈/⌉ wait.interval.toNanos + 1 := by
      rw [hceil]
      split <;> omega
    rw [hmost]
    constructor
    · refine Nat.succ_le_succ ?_
      rw [ceilDiv_le_iff_le_mul (pauseNanos_pos hinterval)]
      have hcovered := le_smul_ceilDiv (b := wait.timeout.toNanos) hinterval
      exact hcovered.trans (Nat.mul_le_mul_right _ (interval_le_pauseNanos hshort))
    · intro hwhole
      rw [mostQueries, pauseNanos_eq hshort hwhole]

/-- A query every five seconds, for twelve seconds. -/
def shortWindow : Wait := (forPod (.ofSecs 5)).paced (.ofSecs 5) (.ofSecs 12)

theorem queries_within_window_of_shortWindow :
    shortWindow.fault? = none ∧ shortWindow.mostQueries = 4 ∧
    ∃ ms s', (shortWindow.run mute {}).Yields { memory := () } (.timedOut 4 ms "") s' ∧
      s'.calls = List.replicate 4 (shortWindow.query {}) := by
  have hvalid : shortWindow.fault? = none := by decide
  obtain ⟨-, hattained, hvalue⟩ := queries_within_window shortWindow hvalid
  have hmost : shortWindow.mostQueries = 4 :=
    ((hvalue (by decide)).2 (by decide +kernel)).trans (by decide +kernel)
  rw [hmost] at hattained
  exact ⟨hvalid, hmost, hattained (by decide +kernel) (by decide) {}⟩

/-- Twelve seconds hold two whole intervals of five, but a fourth query comes after the third. -/
theorem fourth_query_of_shortWindow :
    shortWindow.fault? = none ∧
    ¬ ∀ (answer : Except Fault WaitEnding) (s' : Session (List Reply)),
      (shortWindow.run (pendingPod 0) {}).outcome (startOf none) = (answer, s') →
      ∃ n ≤ shortWindow.timeout.toNanos / shortWindow.interval.toNanos + 1,
        s'.calls = (startOf none).calls ++ List.replicate n (shortWindow.query {}) := by
  have hfour : ((shortWindow.run (pendingPod 0) {}).outcome (startOf none)).2.calls.length = 4 := by
    decide +kernel
  have hthree : shortWindow.timeout.toNanos / shortWindow.interval.toNanos + 1 = 3 := by
    decide +kernel
  refine ⟨by decide, fun hbound => ?_⟩
  rcases hrun : (shortWindow.run (pendingPod 0) {}).outcome (startOf none) with ⟨answer, s'⟩
  obtain ⟨n, hn, hcalls⟩ := hbound answer s' hrun
  rw [hrun, hcalls] at hfour
  have hcount : n = 4 := by simpa [startOf, Session.calls] using hfour
  omega

end MeshTestbed.Wait
