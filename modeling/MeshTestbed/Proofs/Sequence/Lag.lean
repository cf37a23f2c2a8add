import MeshTestbed.Proofs.Sequence.Course

namespace MeshTestbed

variable {σ : Type}

namespace Session

variable {runner : Runner σ} {commands : List Argv} {lag ms : Nat} {c : Call} {e : Event}
  {s t : Session σ}

structure Quiet (runner : Runner σ) (s : Session σ) : Prop where
  cancelled : s.cancelled = none
  timer : s.timer = none
  calm : ∀ later c, (runner.reply (runner.after s.memory later) c).1.interrupt = none

theorem advance_of_no_timer (htimer : s.timer = none) :
    s.advance ms = { s with now := s.now + ms } := by
  unfold advance
  split
  · next hzero =>
    rw [hzero]
    rfl
  · exact moveTo_of_not_due (by simp [htimer])

theorem Quiet.call_eq (h : s.Quiet runner) :
    (s.call runner c).2 =
      { s with
        memory := (runner.reply s.memory c).2
        now := s.now + (runner.reply s.memory c).1.duration
        log := ⟨c, s.now, s.cancelled.isSome⟩ :: s.log } := by
  have hcalm : (runner.reply s.memory c).1.interrupt = none := h.calm [] c
  simp only [Session.call, hcalm]
  exact advance_of_no_timer h.timer

theorem Quiet.sleep_eq (h : s.Quiet runner) :
    s.sleep runner ms = (none, { s with now := s.now + min ms longestSleep }) := by
  simp [Session.sleep, Session.moveTo, h.cancelled, h.timer]

theorem Quiet.call (h : s.Quiet runner) : (s.call runner c).2.Quiet runner := by
  rw [h.call_eq]
  exact ⟨h.cancelled, h.timer, fun later => h.calm (c :: later)⟩

theorem Quiet.told (h : s.Quiet runner) : (s.told e).Quiet runner :=
  ⟨h.cancelled, h.timer, h.calm⟩

theorem Quiet.afterCalls {calls : List Call} (h : s.Quiet runner) :
    (s.afterCalls runner calls).Quiet runner ∧ s.now ≤ (s.afterCalls runner calls).now := by
  induction calls generalizing s with
  | nil => exact ⟨h, Nat.le_refl _⟩
  | cons c calls ih =>
    obtain ⟨hquiet, hnow⟩ := ih (h.call (c := c))
    rw [now_call] at hnow
    exact ⟨hquiet, Nat.le_trans (Nat.le_add_right _ _) hnow⟩

/-- The session `t` is `s` some time later; commands with these argvs get the same replies. -/
structure Lags (runner : Runner σ) (commands : List Argv) (lag : Nat) (s t : Session σ) :
    Prop where
  quiet : s.Quiet runner
  quiet_later : t.Quiet runner
  now : t.now = s.now + lag
  replies : ∀ later c, c.argv ∈ commands →
    (runner.reply (runner.after t.memory later) c).1 =
      (runner.reply (runner.after s.memory later) c).1

namespace Lags

theorem refl (h : s.Quiet runner) : Lags runner commands 0 s s := ⟨h, h, rfl, fun _ _ _ => rfl⟩

theorem told {e' : Event} (h : Lags runner commands lag s t) :
    Lags runner commands lag (s.told e) (t.told e') :=
  ⟨h.quiet.told, h.quiet_later.told, h.now, h.replies⟩

theorem answer_eq (h : Lags runner commands lag s t) (hc : c.argv ∈ commands) :
    (t.call runner c).1 = (s.call runner c).1 :=
  congrArg Reply.result (h.replies [] c hc)

theorem call (h : Lags runner commands lag s t) (hc : c.argv ∈ commands) :
    Lags runner commands lag (s.call runner c).2 (t.call runner c).2 where
  quiet := h.quiet.call
  quiet_later := h.quiet_later.call
  now := by
    have hduration : (runner.reply t.memory c).1.duration = (runner.reply s.memory c).1.duration :=
      congrArg Reply.duration (h.replies [] c hc)
    rw [now_call, now_call, hduration, h.now]
    omega
  replies later c' hc' := by
    rw [memory_call, memory_call]
    exact h.replies (c :: later) c' hc'

theorem sleep (h : Lags runner commands lag s t) :
    Lags runner commands lag (s.sleep runner ms).2 (t.sleep runner ms).2 := by
  rw [h.quiet.sleep_eq, h.quiet_later.sleep_eq]
  refine ⟨⟨h.quiet.cancelled, h.quiet.timer, h.quiet.calm⟩,
    ⟨h.quiet_later.cancelled, h.quiet_later.timer, h.quiet_later.calm⟩, ?_, h.replies⟩
  have hnow := h.now
  dsimp only
  omega

end Lags

end Session

namespace Wait

variable {wait : Wait} {runner : Runner σ} {tool : ClusterTool} {query : Call}
  {commands : List Argv} {lag started made n : Nat} {e : WaitEnding} {s t t' : Session σ}

theorem elapsedMs_add (started now lag : Nat) :
    elapsedMs (started + lag) (now + lag) = elapsedMs started now := by
  rw [elapsedMs, Nat.add_sub_add_right, elapsedMs]

theorem StaysOpen.of_lags (h : StaysOpen wait runner query (started + lag) t)
    (hlags : s.Lags runner commands lag t) (hquery : query.argv ∈ commands) :
    StaysOpen wait runner query started s := by
  obtain ⟨-, ⟨o, hanswer, hunmet⟩, hearly⟩ := h
  refine ⟨hlags.quiet.cancelled, ⟨o, hlags.answer_eq hquery ▸ hanswer, hunmet⟩, ?_⟩
  rwa [(hlags.call hquery).now, Nat.add_sub_add_right] at hearly

theorem Course.of_lags (h : Course wait runner query (started + lag) made t n e t')
    (hlags : s.Lags runner commands lag t) (hquery : query.argv ∈ commands) :
    ∃ s', Course wait runner query started made s n e s' ∧ s'.Lags runner commands lag t' := by
  -- Nothing is cancelled, so that the two rules that end with a cancellation do not apply.
  induction h generalizing s with
  | cancelled made hcancelled => simp [hlags.quiet_later.cancelled] at hcancelled
  | failed made _ hanswer =>
    rw [hlags.answer_eq hquery] at hanswer
    exact ⟨_, .failed made hlags.quiet.cancelled hanswer, hlags.call hquery⟩
  | satisfied made _ hanswer hmet =>
    rw [hlags.answer_eq hquery] at hanswer
    rw [(hlags.call hquery).now, elapsedMs_add]
    exact ⟨_, .satisfied made hlags.quiet.cancelled hanswer hmet, hlags.call hquery⟩
  | timedOut made _ hanswer hunmet hlate =>
    rw [hlags.answer_eq hquery] at hanswer
    rw [(hlags.call hquery).now, Nat.add_sub_add_right] at hlate
    rw [(hlags.call hquery).now, elapsedMs_add]
    exact ⟨_, .timedOut made hlags.quiet.cancelled hanswer hunmet hlate, hlags.call hquery⟩
  | interrupted made _ hslept =>
    simp [(hlags.call hquery).quiet_later.sleep_eq] at hslept
  | again hopen _ _ ih =>
    obtain ⟨s', hrest, hlags'⟩ := ih (hlags.call hquery).sleep
    have hslept : ((asked runner query s).sleep runner wait.interval.ceilMillis).1 = none := by
      rw [(hlags.call hquery).quiet.sleep_eq]
    exact ⟨s', .again (hopen.of_lags hlags hquery) hslept hrest, hlags'⟩

/-- A wait that can be made later can be made now, and ends alike. -/
theorem yields_run_of_lags (h : (wait.run runner tool).Yields t e t')
    (hlags : s.Lags runner commands lag t) (hquery : wait.queryArgv tool ∈ commands) :
    ∃ s', (wait.run runner tool).Yields s e s' ∧ s'.Lags runner commands lag t' := by
  obtain ⟨hcan, n, hn, hcourse⟩ := yields_run_iff.1 h
  rw [hlags.now] at hcourse
  obtain ⟨s', hcourse', hlags'⟩ := hcourse.of_lags hlags hquery
  -- Only the later clock can be too late for a deadline.
  have hcan' : s.canWait wait.timeout = true := by
    simp only [Session.canWait, decide_eq_true_eq, hlags.now] at hcan ⊢
    refine Nat.lt_of_le_of_lt (Nat.add_le_add_right (Nat.mul_le_mul_right _ ?_) _) hcan
    exact Nat.le_add_right _ _
  exact ⟨s', yields_run_iff.2 ⟨hcan', n, hn, hcourse'⟩, hlags'⟩

end Wait

namespace StageRecord

/-- A record without its times. -/
def untimed (r : StageRecord) : StageRecord :=
  { r with startedAt := ⟨0, 0, 0⟩, endedAt := ⟨0, 0, 0⟩ }

variable {r r' : StageRecord}

theorem untimed_afterCommand {stage : Stage} {rules : Tolerances}
    {answer : Except CommandFailure Completion} :
    (r.afterCommand stage rules answer).untimed = r.untimed.afterCommand stage rules answer := by
  unfold afterCommand
  split
  · rfl
  · split <;> rfl

theorem untimed_afterWait {policy : TimeoutResponse} {outcome : WaitEnding} :
    (r.afterWait policy outcome).untimed = r.untimed.afterWait policy outcome := by
  cases outcome <;> try rfl
  cases policy <;> rfl

theorem of_untimed_eq (h : r.untimed = r'.untimed) :
    r.name = r'.name ∧ r.status = r'.status ∧ r.diagnosis? = r'.diagnosis? :=
  ⟨show r.untimed.name = r'.untimed.name by rw [h],
    show r.untimed.status = r'.untimed.status by rw [h],
    show r.untimed.diagnosis? = r'.untimed.diagnosis? by rw [h]⟩

end StageRecord

def SequenceRecord.untimed (record : SequenceRecord) : SequenceRecord :=
  { record with results := record.results.map StageRecord.untimed }

namespace Conductor

variable {seq : Conductor σ} {stage : Stage} {stages : List Stage} {commands : List Argv}
  {lag : Nat} {r : StageRecord} {rs : List StageRecord} {stop : Option Stop}
  {s t t' : Session σ}

/-- The commands of a stage are among these. -/
structure Within (seq : Conductor σ) (commands : List Argv) (stage : Stage) : Prop where
  command : (stage.action.call seq.tool).argv ∈ commands
  query : ∀ wait, stage.readiness = some wait → wait.queryArgv seq.tool ∈ commands

theorem untimed_begun : (seq.begun stage s).untimed =
    { name := stage.name, kind := stage.kind, status := .succeeded
      command := summarize (stage.action.call seq.tool).argv, startedAt := ⟨0, 0, 0⟩
      endedAt := ⟨0, 0, 0⟩ } := rfl

theorem untimed_answered (hlags : s.Lags seq.runner commands lag t)
    (hstage : seq.Within commands stage) :
    (seq.answered stage s).untimed = (seq.answered stage t).untimed := by
  have hannounced : (seq.announced stage s).Lags seq.runner commands lag (seq.announced stage t) :=
    hlags.told
  unfold answered
  rw [StageRecord.untimed_afterCommand, StageRecord.untimed_afterCommand,
    hannounced.answer_eq hstage.command, untimed_begun, untimed_begun]

theorem Settled.of_lags (h : Settled seq stage t r t') (hlags : s.Lags seq.runner commands lag t)
    (hstage : seq.Within commands stage) :
    ∃ r' s', Settled seq stage s r' s' ∧ r'.untimed = r.untimed ∧
      s'.Lags seq.runner commands lag t' := by
  have hanswered := untimed_answered hlags hstage
  have hstatus := (StageRecord.of_untimed_eq hanswered).2.1
  have hissued : (seq.issued stage s).Lags seq.runner commands lag (seq.issued stage t) :=
    hlags.told.call hstage.command
  cases h with
  | unawaited hnone =>
    rw [← hstatus] at hnone
    exact ⟨_, _, .unawaited hnone, hanswered, hissued⟩
  | awaited hwait hok hrun =>
    rw [← hstatus] at hok
    obtain ⟨s', hrun', hlags'⟩ := Wait.yields_run_of_lags hrun hissued (hstage.query _ hwait)
    refine ⟨_, _, .awaited hwait hok hrun', ?_, hlags'.told⟩
    rw [StageRecord.untimed_afterWait, StageRecord.untimed_afterWait, hanswered]

theorem yields_perform_of_lags (h : (seq.perform stage).Yields t r t')
    (hlags : s.Lags seq.runner commands lag t) (hstage : seq.Within commands stage) :
    ∃ r' s', (seq.perform stage).Yields s r' s' ∧ r'.untimed = r.untimed ∧
      s'.Lags seq.runner commands lag t' := by
  obtain ⟨r₀, u, hsettled, rfl, rfl⟩ := yields_perform_iff.1 h
  obtain ⟨r₀', u', hsettled', huntimed, hlags'⟩ := hsettled.of_lags hlags hstage
  exact ⟨_, _, yields_perform_iff.2 ⟨r₀', u', hsettled', rfl, rfl⟩, huntimed, hlags'.told⟩

theorem Course.of_lags (h : Course seq stages t rs stop t')
    (hlags : s.Lags seq.runner commands lag t)
    (hstages : ∀ stage ∈ stages, seq.Within commands stage) :
    ∃ rs' s', Course seq stages s rs' stop s' ∧
      rs'.map StageRecord.untimed = rs.map StageRecord.untimed ∧
      s'.Lags seq.runner commands lag t' := by
  induction h generalizing s with
  | done => exact ⟨[], s, .done s, rfl, hlags⟩
  | preempted _ _ hcancelled => simp [hlags.quiet_later.cancelled] at hcancelled
  | @halted stage rest _ t' r _ hperform hends =>
    obtain ⟨r', s', hperform', huntimed, hlags'⟩ :=
      yields_perform_of_lags hperform hlags (hstages stage (by simp))
    obtain ⟨hname, hstatus, hdiagnosis⟩ := StageRecord.of_untimed_eq huntimed
    have hreason : haltReason r' s' = haltReason r t' := by
      rw [haltReason, haltReason, hdiagnosis, hlags'.quiet.cancelled,
        hlags'.quiet_later.cancelled]
    have hhalted := Course.halted rest hlags.quiet.cancelled hperform' (by rw [hstatus, hends])
    rw [hname, hstatus, hreason] at hhalted
    exact ⟨[r'], s', hhalted, by simp [huntimed], hlags'⟩
  | @next stage rest _ t' _ r rs _ _ hperform hgoes _ ih =>
    obtain ⟨r', s', hperform', huntimed, hlags'⟩ :=
      yields_perform_of_lags hperform hlags (hstages stage (by simp))
    obtain ⟨-, hstatus, -⟩ := StageRecord.of_untimed_eq huntimed
    obtain ⟨rs', u, hrest, hrs, hlags''⟩ :=
      ih hlags' fun later hlater => hstages later (List.mem_cons_of_mem _ hlater)
    exact ⟨r' :: rs', u, .next hlags.quiet.cancelled hperform' (by rw [hstatus, hgoes]) hrest,
      by simp [huntimed, hrs], hlags''⟩

theorem Course.quiet {s' : Session σ} (h : Course seq stages s rs stop s')
    (hquiet : s.Quiet seq.runner) (hstages : ∀ stage ∈ stages, seq.Within commands stage) :
    s'.Quiet seq.runner := by
  -- A session lags itself by no time at all.
  obtain ⟨_, _, -, -, hlags⟩ := h.of_lags (.refl hquiet) hstages
  exact hlags.quiet_later

end Conductor

end MeshTestbed
