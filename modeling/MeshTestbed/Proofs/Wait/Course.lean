import MeshTestbed.Proofs.Execution
import MeshTestbed.Run.Waiting

/-!
`Course` gives the rounds of a wait by rules, one for each way a round can end, without the bound on
the number of queries that the recursion carries. What a wait does to the session is read off the
rules.
-/

namespace MeshTestbed.Wait

variable {σ : Type}

abbrev query (wait : Wait) (tool : ClusterTool) : Call := ⟨wait.queryArgv tool, none⟩

abbrev asked (runner : Runner σ) (query : Call) (s : Session σ) : Session σ :=
  (s.call runner query).2

/-- The query made now is answered in time, but the goal is not met. -/
structure StaysOpen (wait : Wait) (runner : Runner σ) (query : Call) (started : Nat)
    (s : Session σ) : Prop where
  uncancelled : s.cancelled = none
  unmet : ∃ o, (s.call runner query).1 = .ok o ∧ (wait.goal.judge o).satisfied = false
  early : ((asked runner query s).now - started) * 1000000 < wait.timeout.toNanos

/-- A wait that has made so many queries ends with `e` after `n` of them, and leaves `s'`. -/
inductive Course (wait : Wait) (runner : Runner σ) (query : Call) (started : Nat) :
    Nat → Session σ → (n : Nat) → (e : WaitEnding) → (s' : Session σ) → Prop where
  | cancelled (made : Nat) {s : Session σ} {reason : String}
    (hcancelled : s.cancelled = some reason) :
    Course wait runner query started made s made (.cancelled (.ofNat made) reason) s
  | failed (made : Nat) {s : Session σ} {err : CommandFailure} (huncancelled : s.cancelled = none)
    (hanswer : (s.call runner query).1 = .error err) :
    Course wait runner query started made s (made + 1)
      (.commandFailed (.ofNat (made + 1)) err.message) (asked runner query s)
  | satisfied (made : Nat) {s : Session σ} {o : Completion} (huncancelled : s.cancelled = none)
    (hanswer : (s.call runner query).1 = .ok o) (hmet : (wait.goal.judge o).satisfied = true) :
    Course wait runner query started made s (made + 1)
      (.satisfied (.ofNat (made + 1)) (elapsedMs started (asked runner query s).now))
      (asked runner query s)
  | timedOut (made : Nat) {s : Session σ} {o : Completion} (huncancelled : s.cancelled = none)
    (hanswer : (s.call runner query).1 = .ok o) (hunmet : (wait.goal.judge o).satisfied = false)
    (hlate : wait.timeout.toNanos ≤ ((asked runner query s).now - started) * 1000000) :
    Course wait runner query started made s (made + 1)
      (.timedOut (.ofNat (made + 1)) (elapsedMs started (asked runner query s).now)
        (wait.goal.judge o).snapshot)
      (asked runner query s)
  | interrupted (made : Nat) {s : Session σ} {reason : String}
    (hopen : StaysOpen wait runner query started s)
    (hslept : ((asked runner query s).sleep runner wait.interval.ceilMillis).1 = some reason) :
    Course wait runner query started made s (made + 1) (.cancelled (.ofNat (made + 1)) reason)
      ((asked runner query s).sleep runner wait.interval.ceilMillis).2
  | again {made n : Nat} {s s' : Session σ} {e : WaitEnding}
    (hopen : StaysOpen wait runner query started s)
    (hslept : ((asked runner query s).sleep runner wait.interval.ceilMillis).1 = none)
    (rest : Course wait runner query started (made + 1)
      ((asked runner query s).sleep runner wait.interval.ceilMillis).2 n e s') :
    Course wait runner query started made s n e s'

variable {wait : Wait} {runner : Runner σ} {tool : ClusterTool} {query : Call}
  {started made left n : Nat} {e : WaitEnding} {s s' : Session σ}

theorem Course.made_le (h : Course wait runner query started made s n e s') : made ≤ n := by
  induction h with
  | cancelled => exact Nat.le_refl _
  | failed | satisfied | timedOut | interrupted => exact Nat.le_succ _
  | again _ _ _ ih => omega

theorem yields_resume_of_answer {o : Completion} (huncancelled : s.cancelled = none)
    (hanswer : (s.call runner query).1 = .ok o) :
    (wait.resume runner query started (left + 1) made).Yields s e s' ↔
      (if (wait.goal.judge o).satisfied then
        pure (.satisfied (.ofNat (made + 1)) (elapsedMs started (asked runner query s).now))
      else if wait.timeout.toNanos ≤ ((asked runner query s).now - started) * 1000000 then
        pure (.timedOut (.ofNat (made + 1)) (elapsedMs started (asked runner query s).now)
          (wait.goal.judge o).snapshot)
      else RunM.sleep runner wait.interval >>= fun slept =>
        match slept with
        | some reason => pure (.cancelled (.ofNat (made + 1)) reason)
        | none => wait.resume runner query started left (made + 1) : RunM σ WaitEnding).Yields
        (asked runner query s) e s' := by
  rw [resume, RunM.yields_cancelled_bind, huncancelled]
  dsimp only
  rw [RunM.yields_call_bind, hanswer]
  exact RunM.yields_get_bind

theorem course_of_yields_resume
    (h : (wait.resume runner query started left made).Yields s e s') :
    ∃ n ≤ made + left, Course wait runner query started made s n e s' := by
  -- On the queries left; each way out of a round is a rule of the course.
  induction left generalizing made s with
  | zero =>
    simp only [resume, RunM.yields_cancelled_bind] at h
    split at h
    · next reason hcancelled =>
      obtain ⟨rfl, rfl⟩ := RunM.yields_pure.1 h
      exact ⟨made, Nat.le_refl _, .cancelled made hcancelled⟩
    · exact absurd h RunM.not_yields_throw
  | succ left ih =>
    rcases hcancelled : s.cancelled with _ | reason
    · rcases hanswer : (s.call runner query).1 with err | o
      · simp only [resume, RunM.yields_cancelled_bind, hcancelled, RunM.yields_call_bind, hanswer,
          RunM.yields_pure] at h
        obtain ⟨rfl, rfl⟩ := h
        exact ⟨made + 1, by omega, .failed made hcancelled hanswer⟩
      rw [yields_resume_of_answer hcancelled hanswer] at h
      split at h
      · next hmet =>
        obtain ⟨rfl, rfl⟩ := RunM.yields_pure.1 h
        exact ⟨made + 1, by omega, .satisfied made hcancelled hanswer hmet⟩
      next hunmet =>
      have hunmet := Bool.eq_false_iff.2 hunmet
      split at h
      · next hlate =>
        obtain ⟨rfl, rfl⟩ := RunM.yields_pure.1 h
        exact ⟨made + 1, by omega, .timedOut made hcancelled hanswer hunmet hlate⟩
      next hearly =>
      have hopen : StaysOpen wait runner query started s :=
        ⟨hcancelled, ⟨o, hanswer, hunmet⟩, Nat.lt_of_not_ge hearly⟩
      rw [RunM.yields_sleep_bind] at h
      split at h
      · next reason hslept =>
        obtain ⟨rfl, rfl⟩ := RunM.yields_pure.1 h
        exact ⟨made + 1, by omega, .interrupted made hopen hslept⟩
      · next hslept =>
        obtain ⟨n, hn, hrest⟩ := ih h
        exact ⟨n, by omega, .again hopen hslept hrest⟩
    · simp only [resume, RunM.yields_cancelled_bind, hcancelled, RunM.yields_pure] at h
      obtain ⟨rfl, rfl⟩ := h
      exact ⟨made, Nat.le_add_right _ _, .cancelled made hcancelled⟩

theorem Course.yields_resume (h : Course wait runner query started made s n e s')
    (hn : n ≤ made + left) : (wait.resume runner query started left made).Yields s e s' := by
  induction h generalizing left with
  | cancelled made hcancelled => cases left <;> simp [resume, hcancelled]
  | failed made huncancelled hanswer =>
    obtain ⟨left, rfl⟩ : ∃ k, left = k + 1 := ⟨left - 1, by omega⟩
    simp [resume, huncancelled, hanswer]
  | satisfied made huncancelled hanswer hmet =>
    obtain ⟨left, rfl⟩ : ∃ k, left = k + 1 := ⟨left - 1, by omega⟩
    rw [yields_resume_of_answer huncancelled hanswer, if_pos hmet]
    exact RunM.yields_pure.2 ⟨rfl, rfl⟩
  | timedOut made huncancelled hanswer hunmet hlate =>
    obtain ⟨left, rfl⟩ : ∃ k, left = k + 1 := ⟨left - 1, by omega⟩
    rw [yields_resume_of_answer huncancelled hanswer, if_neg (by simp [hunmet]), if_pos hlate]
    exact RunM.yields_pure.2 ⟨rfl, rfl⟩
  | interrupted made hopen hslept =>
    obtain ⟨left, rfl⟩ : ∃ k, left = k + 1 := ⟨left - 1, by omega⟩
    obtain ⟨huncancelled, ⟨o, hanswer, hunmet⟩, hearly⟩ := hopen
    rw [yields_resume_of_answer huncancelled hanswer, if_neg (by simp [hunmet]),
      if_neg (Nat.not_le.2 hearly), RunM.yields_sleep_bind, hslept]
    exact RunM.yields_pure.2 ⟨rfl, rfl⟩
  | again hopen hslept hrest ih =>
    have hmade := hrest.made_le
    obtain ⟨left, rfl⟩ : ∃ k, left = k + 1 := ⟨left - 1, by omega⟩
    obtain ⟨huncancelled, ⟨o, hanswer, hunmet⟩, hearly⟩ := hopen
    rw [yields_resume_of_answer huncancelled hanswer, if_neg (by simp [hunmet]),
      if_neg (Nat.not_le.2 hearly), RunM.yields_sleep_bind, hslept]
    exact ih (by omega)

/-- A wait answers what its course ends with, unless there are more queries than can be counted. -/
theorem yields_run_iff :
    (wait.run runner tool).Yields s e s' ↔
      s.canWait wait.timeout = true ∧ ∃ n < UInt32.size,
        Course wait runner (wait.query tool) s.now 0 s n e s' := by
  have hmax : maxQueries + 1 = UInt32.size := rfl
  rw [run, RunM.yields_get_bind]
  constructor
  · intro h
    split at h
    · next hcan =>
      obtain ⟨n, hn, hcourse⟩ := course_of_yields_resume h
      exact ⟨hcan, n, by omega, hcourse⟩
    · exact absurd h RunM.not_yields_throw
  · rintro ⟨hcan, n, hn, hcourse⟩
    rw [if_pos hcan]
    exact hcourse.yields_resume (by omega)

theorem Course.queries_eq (h : Course wait runner query started made s n e s') :
    e.queries = .ofNat n := by
  induction h with
  | again _ _ _ ih => exact ih
  | _ => rfl

theorem Course.events_eq (h : Course wait runner query started made s n e s') :
    s'.events = s.events := by
  induction h with
  | again _ _ _ ih => simpa using ih
  | _ => simp

theorem Course.issued (h : Course wait runner query started made s n e s') :
    Session.Issued runner (List.replicate (n - made) query) s s' := by
  induction h with
  | cancelled made =>
    rw [Nat.sub_self]
    exact .none rfl rfl
  | failed made | satisfied made | timedOut made =>
    rw [Nat.add_sub_cancel_left]
    exact .call
  | interrupted made =>
    rw [Nat.add_sub_cancel_left]
    exact Session.Issued.call.trans_none Session.calls_sleep Session.memory_sleep
  | @again made n _ _ _ _ _ hrest ih =>
    -- The first of these queries is the one of this round.
    have hmade := hrest.made_le
    have hcount : n - made = n - (made + 1) + 1 := by omega
    rw [hcount, List.replicate_succ]
    exact (Session.Issued.call.trans_none Session.calls_sleep Session.memory_sleep).trans ih

theorem Course.unique {n' : Nat} {e' : WaitEnding} {t : Session σ}
    (h : Course wait runner query started made s n e s')
    (h' : Course wait runner query started made s n' e' t) : n = n' ∧ e = e' ∧ s' = t := by
  have hyields := h.yields_resume (show n ≤ made + (n + n') by omega)
  have hyields' := h'.yields_resume (show n' ≤ made + (n + n') by omega)
  obtain ⟨rfl, rfl⟩ := hyields.unique hyields'
  have hcalls := congrArg List.length (h.issued.calls_eq.symm.trans h'.issued.calls_eq)
  have hcount : n - made = n' - made := by simpa using hcalls
  have hmade := h.made_le
  have hmade' := h'.made_le
  exact ⟨by omega, rfl, rfl⟩

theorem Course.cancelled_eq (h : Course wait runner query started made s n e s')
    {k : UInt32} {reason : String} (he : e = .cancelled k reason) :
    s'.cancelled = some reason := by
  induction h with
  | cancelled made hcancelled =>
    cases he
    exact hcancelled
  | interrupted made _ hslept =>
    cases he
    exact Session.cancelled_sleep hslept
  | again _ _ _ ih => exact ih he
  | _ => cases he

/-- What a wait leaves behind, whatever it was for. -/
structure Effects (runner : Runner σ) (query : Call) (s : Session σ) (e : WaitEnding)
    (s' : Session σ) : Prop where
  issued : Session.Issued runner (List.replicate e.queries.toNat query) s s'
  events : s'.events = s.events
  reason : ∀ k reason, e = .cancelled k reason → s'.cancelled = some reason

theorem effects_of_yields (h : (wait.run runner tool).Yields s e s') :
    Effects runner (wait.query tool) s e s' := by
  obtain ⟨-, n, hn, hcourse⟩ := yields_run_iff.1 h
  have hcount : e.queries.toNat = n := by
    rw [hcourse.queries_eq]
    exact UInt32.toNat_ofNat_of_lt' hn
  exact ⟨hcount ▸ hcourse.issued, hcourse.events_eq, fun _ _ => hcourse.cancelled_eq⟩

end MeshTestbed.Wait
