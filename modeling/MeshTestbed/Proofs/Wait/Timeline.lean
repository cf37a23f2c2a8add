import Mathlib.Data.Nat.Find
import MeshTestbed.Proofs.Wait.Course
import MeshTestbed.Rehearsal.Playbook

/-!
A `Timeline` is what a wait meets, without a session. Its first query that stops the wait says how
the wait ends, and `run_follows_timeline` that it does. A pause is the interval of the wait, but
never more than the longest sleep of the clock (`run_departs_from_long_interval`).
-/

namespace MeshTestbed

/-- What a wait meets, on a clock that starts with it. -/
structure Timeline where
  goal : Goal
  timeout : Nat
  /-- Milliseconds between the end of a query and the next one. -/
  pause : Nat
  /-- The reply to each query, the first of them being number zero. -/
  reply : Nat → Reply
  /-- The instant and the reason of a cancellation from outside. -/
  cancellation : Option (Nat × String)

namespace Timeline

variable (tl : Timeline)

def start : Nat → Nat
  | 0 => 0
  | i + 1 => start i + (tl.reply i).duration + tl.pause

def finish (i : Nat) : Nat := tl.start i + (tl.reply i).duration

/-- The earlier of two cancellations; of two at one instant it is the first. -/
def earlier : Option (Nat × String) → Option (Nat × String) → Option (Nat × String)
  | none, b => b
  | some a, none => some a
  | some a, some b => if b.1 < a.1 then some b else some a

def firstCancellation : Nat → Option (Nat × String)
  | 0 => tl.cancellation
  | n + 1 =>
    earlier (firstCancellation n)
      ((tl.reply n).interrupt.map fun reason => (tl.finish n, reason))

def cancelledBefore (i : Nat) : Option String :=
  ((tl.firstCancellation i).filter fun c => c.1 ≤ tl.start i).map (·.2)

/-- How a query stops the wait, if it does, with the number of queries made by then. -/
def stop? (i : Nat) : Option (Nat × WaitEnding) :=
  match tl.cancelledBefore i with
  | some reason => some (i, .cancelled (.ofNat i) reason)
  | none =>
    match (tl.reply i).result with
    | .error e => some (i + 1, .commandFailed (.ofNat (i + 1)) e.message)
    | .ok o =>
      let seen := tl.goal.judge o
      let elapsed := Wait.elapsedMs 0 (tl.finish i)
      if seen.satisfied then some (i + 1, .satisfied (.ofNat (i + 1)) elapsed)
      else if tl.timeout ≤ tl.finish i then
        some (i + 1, .timedOut (.ofNat (i + 1)) elapsed seen.snapshot)
      else none

def EndsWith (n : Nat) (e : WaitEnding) : Prop :=
  ∃ i, tl.stop? i = some (n, e) ∧ ∀ j < i, tl.stop? j = none

def logOf (query : Call) (origin n : Nat) : List LoggedCall :=
  ((List.range n).map fun i => ⟨query, origin + tl.start i, false⟩).reverse

variable {tl}

theorem mul_pause_le_start (i : Nat) : i * tl.pause ≤ tl.start i := by
  induction i with
  | zero => simp
  | succ i ih =>
    rw [Nat.succ_mul]
    simp only [start]
    omega

theorem exists_endsWith (hpause : 0 < tl.pause) : ∃ n e, tl.EndsWith n e := by
  have hstop : ∃ i, (tl.stop? i).isSome := by
    refine ⟨tl.timeout, ?_⟩
    -- As many pauses as the timeout has milliseconds are past the deadline.
    have hlate : tl.timeout ≤ tl.finish tl.timeout := by
      have hstart : tl.timeout * tl.pause ≤ tl.start tl.timeout := mul_pause_le_start _
      have hmul := Nat.le_mul_of_pos_right tl.timeout hpause
      unfold finish
      omega
    unfold stop?
    split
    · rfl
    · split
      · rfl
      · dsimp only
        split
        · rfl
        · rfl
  obtain ⟨⟨n, e⟩, hfound⟩ := Option.isSome_iff_exists.1 (Nat.find_spec hstop)
  exact ⟨n, e, Nat.find hstop, hfound, fun j hj => by simpa using Nat.find_min hstop hj⟩

theorem EndsWith.unique {n n' : Nat} {e e' : WaitEnding} (h : tl.EndsWith n e)
    (h' : tl.EndsWith n' e') : n = n' ∧ e = e' := by
  obtain ⟨i, hstop, hfirst⟩ := h
  obtain ⟨i', hstop', hfirst'⟩ := h'
  rcases Nat.lt_trichotomy i i' with hlt | rfl | hgt
  · simp [hfirst' i hlt] at hstop
  · simpa [hstop] using hstop'
  · simp [hfirst i' hgt] at hstop'

end Timeline

namespace Session

variable {σ : Type} {runner : Runner σ} {query : Call} {s : Session σ}
  {first : Option (Nat × String)} {origin ms : Nat}

/-- The session knows the first cancellation, told by instants after `origin`: it has happened, or
the timer is to bring it later than now. -/
def Foresees (s : Session σ) (origin : Nat) (first : Option (Nat × String)) : Prop :=
  match s.cancelled with
  | some reason => ∃ i, origin + i ≤ s.now ∧ first = some (i, reason)
  | none => first = s.timer.map fun timer => (max (s.now + 1) timer.1 - origin, timer.2)

/-- The cancellation that a run is to meet from now on, if commands do not bring one before. One
that is due but has not come yet comes with the next instant. -/
def impending (s : Session σ) : Option (Nat × String) :=
  match s.cancelled with
  | some reason => some (0, reason)
  | none => s.timer.map fun timer => (max 1 (timer.1 - s.now), timer.2)

theorem foresees_impending : s.Foresees s.now s.impending := by
  unfold Foresees impending
  rcases s.cancelled with _ | reason
  · refine congrArg (s.timer.map ·) (funext fun timer => ?_)
    rw [Prod.mk.injEq]
    exact ⟨by omega, rfl⟩
  · exact ⟨0, by simp⟩

theorem Foresees.moveTo {t : Nat} (h : s.Foresees origin first) (horigin : origin ≤ s.now)
    (ht : s.now < t) : (s.moveTo t).Foresees origin first := by
  unfold Foresees at h
  rcases hcancelled : s.cancelled with _ | reason <;> simp only [hcancelled] at h
  · by_cases hdue : ∃ due reason, s.timer = some (due, reason) ∧ due ≤ t
    · obtain ⟨due, reason, htimer, hdue⟩ := hdue
      rw [moveTo_of_due htimer hdue]
      simp only [Foresees, Session.cancel, hcancelled, Option.none_or]
      exact ⟨max (s.now + 1) due - origin, by omega, by simp [h, htimer]⟩
    · have hpending : ∀ due reason, s.timer = some (due, reason) → t < due := by
        intro due reason htimer
        exact Nat.lt_of_not_ge fun hle => hdue ⟨due, reason, htimer, hle⟩
      rw [moveTo_of_not_due hpending]
      simp only [Foresees, hcancelled]
      rcases htimer : s.timer with _ | ⟨due, reason⟩
      · simpa [htimer] using h
      · have := hpending due reason htimer
        simp only [h, htimer, Option.map_some, Option.some.injEq, Prod.mk.injEq, and_true]
        omega
  · obtain ⟨i, hi, rfl⟩ := h
    have hkept : (s.moveTo t).cancelled = some reason := KeepsCancellation.moveTo reason hcancelled
    simp only [Foresees, hkept]
    exact ⟨i, by simp; omega, rfl⟩

theorem Foresees.advance (h : s.Foresees origin first) (horigin : origin ≤ s.now) :
    (s.advance ms).Foresees origin first := by
  unfold Session.advance
  split
  · exact h
  · exact h.moveTo horigin (by omega)

theorem Foresees.cancel {reason : String} (h : s.Foresees origin first)
    (horigin : origin ≤ s.now) :
    (s.cancel reason).Foresees origin (Timeline.earlier first (some (s.now - origin, reason))) := by
  unfold Foresees at h ⊢
  rcases hcancelled : s.cancelled with _ | known <;>
    simp only [hcancelled, Session.cancel, Option.none_or, Option.some_or] at h ⊢
  · refine ⟨s.now - origin, by omega, ?_⟩
    rcases htimer : s.timer with _ | ⟨due, timed⟩
    · simp [h, htimer, Timeline.earlier]
    · have : s.now - origin < max (s.now + 1) due - origin := by omega
      simp [h, htimer, Timeline.earlier, this]
  · obtain ⟨i, hi, rfl⟩ := h
    have : ¬ s.now - origin < i := by omega
    exact ⟨i, hi, by simp [Timeline.earlier, this]⟩

theorem Foresees.call (h : s.Foresees origin first) (horigin : origin ≤ s.now) :
    (s.call runner query).2.Foresees origin
      (Timeline.earlier first ((runner.reply s.memory query).1.interrupt.map fun reason =>
        (s.now + (runner.reply s.memory query).1.duration - origin, reason))) := by
  let asked : Session σ := { s with
    memory := (runner.reply s.memory query).2
    log := ⟨query, s.now, s.cancelled.isSome⟩ :: s.log }
  have hasked : asked.Foresees origin first := h
  have hanswered : (asked.advance (runner.reply s.memory query).1.duration).Foresees origin first :=
    hasked.advance horigin
  simp only [Session.call]
  rcases (runner.reply s.memory query).1.interrupt with _ | reason
  · rcases first with _ | _ <;> exact hanswered
  · have hlater : origin ≤ (asked.advance (runner.reply s.memory query).1.duration).now := by
      rw [now_advance]
      exact Nat.le_add_right_of_le horigin
    simpa [asked] using hanswered.cancel hlater

theorem Foresees.sleep_interrupted {reason : String} (h : s.Foresees origin first)
    (horigin : origin ≤ s.now) (hms : 0 < ms)
    (hslept : (s.sleep runner ms).1 = some reason) :
    ∃ i, origin + i ≤ s.now + min ms longestSleep ∧ first = some (i, reason) := by
  have hpause : 0 < min ms longestSleep := by
    unfold longestSleep
    omega
  unfold Foresees at h
  unfold Session.sleep at hslept
  dsimp only at hslept
  split at hslept
  · next known _ hcancelled =>
    simp only [hcancelled] at h
    obtain ⟨i, hi, rfl⟩ := h
    have hpositive : decide (ms = 0) = false := decide_eq_false (by omega)
    simp only [hpositive, Bool.false_and, Bool.false_eq_true, if_false, Option.some.injEq]
      at hslept
    exact ⟨i, by omega, by rw [hslept]⟩
  · next due timed hcancelled htimer =>
    simp only [hcancelled, htimer, Option.map_some] at h
    have hcame : due ≤ s.now + min ms longestSleep ∧ timed = reason := by
      split at hslept
      · next hlt => exact ⟨by omega, by simpa using hslept⟩
      · split at hslept
        · next heq => exact ⟨by omega, by simp_all⟩
        · simp at hslept
    exact ⟨max (s.now + 1) due - origin, by omega, by rw [h, hcame.2]⟩
  · simp at hslept

theorem sleep_undisturbed (hms : 0 < ms) (hslept : (s.sleep runner ms).1 = none) :
    (s.sleep runner ms).2 = s.moveTo (s.now + min ms longestSleep) := by
  unfold Session.sleep at hslept ⊢
  dsimp only at hslept ⊢
  split at hslept
  · have hpositive : decide (ms = 0) = false := decide_eq_false (by omega)
    simp [hpositive] at hslept
  · split at hslept
    · simp at hslept
    · next hlt =>
      rw [if_neg hlt]
      split <;> rfl
  · rfl

end Session

namespace Wait

variable {σ : Type}

/-- What a wait meets that starts in a session. A part of a millisecond counts as one. -/
def timeline (wait : Wait) (runner : Runner σ) (query : Call) (s : Session σ) : Timeline where
  goal := wait.goal
  timeout := wait.timeout.ceilMillis
  pause := min wait.interval.ceilMillis Session.longestSleep
  reply i := (runner.reply (runner.after s.memory (List.replicate i query)) query).1
  cancellation := s.impending

/-- A wait that started in `s₀` has made `i` queries and is back in `s`, on time. -/
structure OnTime (wait : Wait) (runner : Runner σ) (query : Call) (s₀ : Session σ) (i : Nat)
    (s : Session σ) : Prop where
  memory : s.memory = runner.after s₀.memory (List.replicate i query)
  now : s.now = s₀.now + (wait.timeline runner query s₀).start i
  foresees : s.Foresees s₀.now ((wait.timeline runner query s₀).firstCancellation i)
  log : s.log = (wait.timeline runner query s₀).logOf query s₀.now i ++ s₀.log

variable {wait : Wait} {runner : Runner σ} {tool : ClusterTool} {query : Call}
  {s₀ s : Session σ} {i k n : Nat} {e : WaitEnding}

theorem onTime_zero : OnTime wait runner query s₀ 0 s₀ where
  memory := rfl
  now := rfl
  foresees := Session.foresees_impending
  log := rfl

namespace OnTime

theorem cancelled_eq (h : OnTime wait runner query s₀ i s) :
    s.cancelled = (wait.timeline runner query s₀).cancelledBefore i := by
  have hforesees := h.foresees
  have hnow := h.now
  unfold Session.Foresees at hforesees
  unfold Timeline.cancelledBefore
  rcases hcancelled : s.cancelled with _ | reason <;> simp only [hcancelled] at hforesees
  · rw [hforesees]
    rcases s.timer with _ | ⟨due, reason⟩
    · rfl
    · -- A timer that has not run out is later than now, which is when the query starts.
      have hlater : ¬ max (s.now + 1) due - s₀.now ≤ (wait.timeline runner query s₀).start i := by
        omega
      simp [Option.filter, hlater]
  · obtain ⟨c, hc, hfirst⟩ := hforesees
    have hbefore : c ≤ (wait.timeline runner query s₀).start i := by omega
    simp [hfirst, Option.filter, hbefore]

theorem answer_eq (h : OnTime wait runner query s₀ i s) :
    (s.call runner query).1 = ((wait.timeline runner query s₀).reply i).result := by
  rw [Session.answer_call, h.memory]
  rfl

theorem now_asked (h : OnTime wait runner query s₀ i s) :
    (asked runner query s).now = s₀.now + (wait.timeline runner query s₀).finish i := by
  rw [Session.now_call, h.now, h.memory, Nat.add_assoc]
  rfl

theorem log_asked (h : OnTime wait runner query s₀ i s) (huncancelled : s.cancelled = none) :
    (asked runner query s).log =
      (wait.timeline runner query s₀).logOf query s₀.now (i + 1) ++ s₀.log := by
  simp [Timeline.logOf, List.range_succ, h.log, h.now, huncancelled]

theorem foresees_asked (h : OnTime wait runner query s₀ i s) :
    (asked runner query s).Foresees s₀.now
      ((wait.timeline runner query s₀).firstCancellation (i + 1)) := by
  have horigin : s₀.now ≤ s.now := by rw [h.now]; omega
  have hcall : (asked runner query s).Foresees s₀.now _ := h.foresees.call horigin
  have hfinish := h.now_asked
  rw [Session.now_call] at hfinish
  rw [hfinish, Nat.add_sub_cancel_left, h.memory] at hcall
  exact hcall

theorem elapsed_eq (h : OnTime wait runner query s₀ i s) :
    elapsedMs s₀.now (asked runner query s).now =
      elapsedMs 0 ((wait.timeline runner query s₀).finish i) := by
  simp only [elapsedMs, h.now_asked, Nat.add_sub_cancel_left, Nat.sub_zero]

theorem late_iff (h : OnTime wait runner query s₀ i s) :
    wait.timeout.toNanos ≤ ((asked runner query s).now - s₀.now) * 1000000 ↔
      (wait.timeline runner query s₀).timeout ≤ (wait.timeline runner query s₀).finish i := by
  rw [h.now_asked, Nat.add_sub_cancel_left]
  change _ ↔ (wait.timeout.toNanos + 999999) / 1000000 ≤ _
  omega

theorem course_of_stop (h : OnTime wait runner query s₀ i s)
    (hstop : (wait.timeline runner query s₀).stop? i = some (n, e)) :
    ∃ s', Course wait runner query s₀.now i s n e s' ∧
      s'.log = (wait.timeline runner query s₀).logOf query s₀.now n ++ s₀.log := by
  -- The tests are made in the order in which the rules exclude each other.
  unfold Timeline.stop? at hstop
  rw [← h.cancelled_eq, ← h.answer_eq] at hstop
  rcases hcancelled : s.cancelled with _ | reason <;> simp only [hcancelled] at hstop
  · rcases hanswer : (s.call runner query).1 with err | o <;> simp only [hanswer] at hstop
    · cases hstop
      exact ⟨_, .failed i hcancelled hanswer, h.log_asked hcancelled⟩
    · rw [← h.elapsed_eq] at hstop
      split at hstop
      · next hmet =>
        cases hstop
        exact ⟨_, .satisfied i hcancelled hanswer hmet, h.log_asked hcancelled⟩
      · next hunmet =>
        split at hstop
        · next hlate =>
          cases hstop
          exact ⟨_, .timedOut i hcancelled hanswer (Bool.eq_false_iff.2 hunmet)
            (h.late_iff.2 hlate), h.log_asked hcancelled⟩
        · cases hstop
  · cases hstop
    exact ⟨s, .cancelled i hcancelled, h.log⟩

theorem staysOpen (h : OnTime wait runner query s₀ i s)
    (hstop : (wait.timeline runner query s₀).stop? i = none) :
    StaysOpen wait runner query s₀.now s := by
  unfold Timeline.stop? at hstop
  rw [← h.cancelled_eq, ← h.answer_eq] at hstop
  rcases hcancelled : s.cancelled with _ | reason <;> simp only [hcancelled] at hstop
  · rcases hanswer : (s.call runner query).1 with err | o <;> simp only [hanswer] at hstop
    · cases hstop
    · split at hstop
      · cases hstop
      · next hunmet =>
        split at hstop
        · cases hstop
        · next hearly =>
          exact ⟨hcancelled, ⟨o, hanswer, Bool.eq_false_iff.2 hunmet⟩,
            Nat.lt_of_not_ge fun hlate => hearly (h.late_iff.1 hlate)⟩
  · cases hstop

theorem next (h : OnTime wait runner query s₀ i s) (hpositive : 0 < wait.interval.ceilMillis)
    (huncancelled : s.cancelled = none)
    (hslept : ((asked runner query s).sleep runner wait.interval.ceilMillis).1 = none) :
    OnTime wait runner query s₀ (i + 1)
      ((asked runner query s).sleep runner wait.interval.ceilMillis).2 where
  memory := by
    rw [Session.memory_sleep, Session.memory_call, h.memory, List.replicate_succ',
      Runner.after_concat]
  now := by
    rw [Session.sleep_undisturbed hpositive hslept, Session.now_moveTo, h.now_asked, Nat.add_assoc]
    rfl
  foresees := by
    rw [Session.sleep_undisturbed hpositive hslept]
    refine h.foresees_asked.moveTo (by rw [h.now_asked]; omega) ?_
    unfold Session.longestSleep
    omega
  log := by rw [Session.log_sleep, h.log_asked huncancelled]

theorem stop_of_interrupted {reason : String} (h : OnTime wait runner query s₀ i s)
    (hpositive : 0 < wait.interval.ceilMillis)
    (hslept : ((asked runner query s).sleep runner wait.interval.ceilMillis).1 = some reason) :
    (wait.timeline runner query s₀).stop? (i + 1) =
      some (i + 1, .cancelled (.ofNat (i + 1)) reason) := by
  obtain ⟨c, hc, hfirst⟩ :=
    h.foresees_asked.sleep_interrupted (by rw [h.now_asked]; omega) hpositive hslept
  have hbefore : c ≤ (wait.timeline runner query s₀).start (i + 1) := by
    rw [h.now_asked, Nat.add_assoc] at hc
    exact Nat.le_of_add_le_add_left hc
  have hcancelled : (wait.timeline runner query s₀).cancelledBefore (i + 1) = some reason := by
    simp [Timeline.cancelledBefore, hfirst, Option.filter, hbefore]
  simp only [Timeline.stop?, hcancelled]

/-- From a query that is on time the course goes on to the first one that stops the wait. -/
theorem course (h : OnTime wait runner query s₀ i s) (hpositive : 0 < wait.interval.ceilMillis)
    (hi : i ≤ k) (hstop : (wait.timeline runner query s₀).stop? k = some (n, e))
    (hfirst : ∀ j < k, (wait.timeline runner query s₀).stop? j = none) :
    ∃ s', Course wait runner query s₀.now i s n e s' ∧
      s'.log = (wait.timeline runner query s₀).logOf query s₀.now n ++ s₀.log := by
  -- On the number of queries that are left until then.
  obtain ⟨left, rfl⟩ := Nat.exists_eq_add_of_le hi
  induction left generalizing i s with
  | zero => exact h.course_of_stop hstop
  | succ left ih =>
    have hopen := h.staysOpen (hfirst i (by omega))
    rcases hslept : ((asked runner query s).sleep runner wait.interval.ceilMillis).1
      with _ | reason
    · have hnext := h.next hpositive hopen.uncancelled hslept
      have hadd : i + 1 + left = i + (left + 1) := by omega
      obtain ⟨s', hrest, hlog⟩ := ih hnext (by omega) (by rwa [hadd]) (by rwa [hadd])
      exact ⟨s', .again hopen hslept hrest, hlog⟩
    · -- The next query would be the one that stops the wait, so that none is left.
      have hnow := h.stop_of_interrupted hpositive hslept
      obtain rfl : left = 0 := by
        rcases left with _ | left
        · rfl
        · simp [hfirst (i + 1) (by omega)] at hnow
      obtain ⟨rfl, rfl⟩ : i + 1 = n ∧ .cancelled (.ofNat (i + 1)) reason = e := by
        simpa [hnow] using hstop
      refine ⟨_, .interrupted i hopen hslept, ?_⟩
      rw [Session.log_sleep, h.log_asked hopen.uncancelled]

end OnTime

/-- A wait ends as its timeline says, and its queries are those of the timeline. -/
theorem run_follows_timeline (wait : Wait) (runner : Runner σ) (tool : ClusterTool)
    (s : Session σ) (hinterval : 0 < wait.interval.toNanos)
    (hcan : s.canWait wait.timeout = true) :
    ∃ n e, (wait.timeline runner (wait.query tool) s).EndsWith n e ∧
      (n < UInt32.size → ∃ s', (wait.run runner tool).Yields s e s' ∧
        s'.log = (wait.timeline runner (wait.query tool) s).logOf (wait.query tool) s.now n ++
          s.log) := by
  have hpositive : 0 < wait.interval.ceilMillis := by
    unfold Span.ceilMillis
    omega
  have hpause : 0 < (wait.timeline runner (wait.query tool) s).pause := by
    change 0 < min wait.interval.ceilMillis Session.longestSleep
    unfold Session.longestSleep
    omega
  obtain ⟨n, e, hends⟩ := Timeline.exists_endsWith hpause
  refine ⟨n, e, hends, fun hn => ?_⟩
  obtain ⟨k, hstop, hfirst⟩ := hends
  obtain ⟨s', hcourse, hlog⟩ := onTime_zero.course hpositive (Nat.zero_le k) hstop hfirst
  exact ⟨s', yields_run_iff.2 ⟨hcan, n, hn, hcourse⟩, hlog⟩

def forPod (interval : Span) : Wait :=
  ⟨.named "pod" "web", none, .podsReady none, interval, .ofSecs 60⟩

def pendingPod (duration : Nat) : Runner (List Reply) :=
  .ofReplies { result := .ok { stdout := "web 0/1 Pending" }, duration }

def startOf (timer : Option (Nat × String)) : Session (List Reply) := { memory := [], timer }

/-- A wait that is cancelled in its second sleep. -/
theorem run_follows_timeline_of_cancellation :
    0 < (forPod (.ofSecs 5)).interval.toNanos ∧
    (startOf (some (12000, "signal"))).canWait (forPod (.ofSecs 5)).timeout = true ∧
    ∃ s', ((forPod (.ofSecs 5)).run (pendingPod 3000) {}).Yields (startOf (some (12000, "signal")))
        (.cancelled 2 "signal") s' ∧
      s'.log.map (·.startedAt) = [8000, 0] := by
  have hends : ((forPod (.ofSecs 5)).timeline (pendingPod 3000) ((forPod (.ofSecs 5)).query {})
      (startOf (some (12000, "signal")))).EndsWith 2 (.cancelled 2 "signal") := by
    refine ⟨2, by decide, fun j hj => ?_⟩
    have hbefore : j = 0 ∨ j = 1 := by omega
    rcases hbefore with rfl | rfl <;> decide
  obtain ⟨n, e, hends', hyields⟩ := run_follows_timeline (forPod (.ofSecs 5)) (pendingPod 3000) {}
    (startOf (some (12000, "signal"))) (by decide) (by decide)
  obtain ⟨rfl, rfl⟩ := hends'.unique hends
  obtain ⟨s', hrun, hlog⟩ := hyields (by decide)
  refine ⟨by decide, by decide, s', hrun, ?_⟩
  rw [hlog]
  decide

def longInterval : Span := .ofSecs 946080001

/-- The second query after a long interval comes before the interval is over. -/
theorem run_departs_from_long_interval :
    0 < (forPod longInterval).interval.toNanos ∧
    (startOf none).canWait (forPod longInterval).timeout = true ∧
    ¬ ∃ n e, Timeline.EndsWith
        { (forPod longInterval).timeline (pendingPod 0) ((forPod longInterval).query {})
            (startOf none) with pause := longInterval.ceilMillis } n e ∧
      (n < UInt32.size → ∃ s', ((forPod longInterval).run (pendingPod 0) {}).Yields (startOf none)
        e s') := by
  refine ⟨by decide, by decide, ?_⟩
  rintro ⟨n, e, hends, hyields⟩
  have hclaimed : Timeline.EndsWith
      { (forPod longInterval).timeline (pendingPod 0) ((forPod longInterval).query {})
          (startOf none) with pause := longInterval.ceilMillis } 2
      (.timedOut 2 946080001000 "web 0/1 Pending") := by
    refine ⟨1, by decide +kernel, fun j hj => ?_⟩
    obtain rfl : j = 0 := by omega
    decide
  -- The wait itself wakes a second too early for that.
  obtain ⟨rfl, rfl⟩ := hends.unique hclaimed
  obtain ⟨s', hrun⟩ := hyields (by decide)
  have hopen : StaysOpen (forPod longInterval) (pendingPod 0) ((forPod longInterval).query {}) 0
      (startOf none) :=
    ⟨rfl, ⟨_, rfl, by decide⟩, by decide⟩
  have hcourse := Course.again hopen (by decide)
    (.timedOut 1 (by decide) rfl (by decide) (by decide))
  have hwoke := hrun.unique (yields_run_iff.2 ⟨by decide, 2, by decide, hcourse⟩)
  have helapsed := (WaitEnding.timedOut.inj hwoke.1).2.1
  revert helapsed
  decide

end Wait

end MeshTestbed
