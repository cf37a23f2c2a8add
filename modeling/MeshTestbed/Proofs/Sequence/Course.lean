import MeshTestbed.Proofs.Wait.Course
import MeshTestbed.Run.Conductor

/-!
`Settled` tells how a stage comes to its record, `Course` how stages follow one another until one of
them stops the sequence.
-/

namespace MeshTestbed.Conductor

variable {σ : Type}

def begun (seq : Conductor σ) (stage : Stage) (s : Session σ) : StageRecord :=
  { name := stage.name, kind := stage.kind, status := .succeeded
    command := summarize (stage.action.call seq.tool).argv, startedAt := s.stamp
    endedAt := s.stamp }

def announced (seq : Conductor σ) (stage : Stage) (s : Session σ) : Session σ :=
  s.told (.stageStarted stage.name stage.kind (summarize (stage.action.call seq.tool).argv))

def issued (seq : Conductor σ) (stage : Stage) (s : Session σ) : Session σ :=
  ((seq.announced stage s).call seq.runner (stage.action.call seq.tool)).2

/-- The record of a stage once its command has been answered. -/
def answered (seq : Conductor σ) (stage : Stage) (s : Session σ) : StageRecord :=
  (seq.begun stage s).afterCommand stage seq.tolerance
    ((seq.announced stage s).call seq.runner (stage.action.call seq.tool)).1

def settle (seq : Conductor σ) (stage : Stage) (accepted : StageRecord) : RunM σ StageRecord :=
  match stage.readiness with
  | some wait =>
    if accepted.status.isOk then seq.awaitReadiness stage wait accepted else pure accepted
  | none => pure accepted

def conclude (r : StageRecord) : RunM σ StageRecord := do
  let endedAt ← RunM.stamp
  RunM.tell (.stageFinished { r with endedAt })
  return { r with endedAt }

/-- A stage has come to this record, and left this session, but has not been told to end. -/
inductive Settled (seq : Conductor σ) (stage : Stage) (s : Session σ) :
    StageRecord → Session σ → Prop where
  | unawaited (hnone : stage.readiness = none ∨ (seq.answered stage s).status.isOk = false) :
    Settled seq stage s (seq.answered stage s) (seq.issued stage s)
  | awaited {wait : Wait} {outcome : WaitEnding} {t : Session σ}
    (hwait : stage.readiness = some wait) (hok : (seq.answered stage s).status.isOk = true)
    (hrun : (wait.run seq.runner seq.tool).Yields (seq.issued stage s) outcome t) :
    Settled seq stage s ((seq.answered stage s).afterWait stage.onTimeout outcome)
      (t.told (.pollFinished stage.name outcome))

/-- Why a stage of this record stopped the sequence that it leaves in `s`. -/
def haltReason (r : StageRecord) (s : Session σ) : String :=
  (r.diagnosis?.map Diagnosis.render).getD (s.cancelled.getD "cancelled")

/-- Started in the session, the stages come to these records and this stop. -/
inductive Course (seq : Conductor σ) : List Stage → Session σ → List StageRecord → Option Stop →
    Session σ → Prop where
  | done (s : Session σ) : Course seq [] s [] none s
  | preempted (stage : Stage) (rest : List Stage) {s : Session σ} {reason : String}
    (hcancelled : s.cancelled = some reason) :
    Course seq (stage :: rest) s [] (some ⟨stage.name, .cancelled, reason⟩) s
  | halted {stage : Stage} (rest : List Stage) {s s' : Session σ} {r : StageRecord}
    (huncancelled : s.cancelled = none) (hperform : (seq.perform stage).Yields s r s')
    (hends : r.status.endsSequence = true) :
    Course seq (stage :: rest) s [r] (some ⟨r.name, r.status, haltReason r s'⟩) s'
  | next {stage : Stage} {rest : List Stage} {s s' s'' : Session σ} {r : StageRecord}
    {rs : List StageRecord} {stop : Option Stop} (huncancelled : s.cancelled = none)
    (hperform : (seq.perform stage).Yields s r s') (hgoes : r.status.endsSequence = false)
    (hrest : Course seq rest s' rs stop s'') :
    Course seq (stage :: rest) s (r :: rs) stop s''

variable {seq : Conductor σ} {stage : Stage} {stages xs ys : List Stage} {r : StageRecord}
  {rs : List StageRecord} {stop : Option Stop} {s s' : Session σ}

theorem waited_answered : (seq.answered stage s).waited = none := by
  unfold answered StageRecord.afterCommand
  split
  · rfl
  · split <;> rfl

theorem status_answered (seq : Conductor σ) (stage : Stage) (s : Session σ) :
    (seq.answered stage s).status = .succeeded ∨ (seq.answered stage s).status = .tolerated ∨
      (seq.answered stage s).status = .failed := by
  unfold answered StageRecord.afterCommand
  split
  · exact .inr (.inr rfl)
  · split
    · exact .inl rfl
    · dsimp only
      split
      · exact .inr (.inl rfl)
      · exact .inr (.inr rfl)

theorem status_answered_ne_cancelled : (seq.answered stage s).status ≠ .cancelled := by
  rcases status_answered seq stage s with h | h | h <;> simp [h]

theorem status_answered_ne_timedOut : (seq.answered stage s).status ≠ .timedOut := by
  rcases status_answered seq stage s with h | h | h <;> simp [h]

theorem name_answered : (seq.answered stage s).name = stage.name := by
  unfold answered StageRecord.afterCommand
  split
  · rfl
  · split <;> rfl

theorem name_afterWait {policy : TimeoutResponse} {outcome : WaitEnding} :
    (r.afterWait policy outcome).name = r.name := by
  cases outcome <;> try rfl
  cases policy <;> rfl

theorem waited_afterWait {policy : TimeoutResponse} {outcome : WaitEnding} :
    (r.afterWait policy outcome).waited = some outcome := by
  cases outcome <;> try rfl
  cases policy <;> rfl

theorem command_afterWait {policy : TimeoutResponse} {outcome : WaitEnding} :
    (r.afterWait policy outcome).exitCode = r.exitCode ∧
    (r.afterWait policy outcome).tolerated = r.tolerated := by
  cases outcome <;> try exact ⟨rfl, rfl⟩
  cases policy <;> exact ⟨rfl, rfl⟩

theorem outcome_perform : (seq.perform stage).outcome s =
    (seq.settle stage (seq.answered stage s) >>= conclude).outcome (seq.issued stage s) := by
  rw [perform, RunM.outcome_stamp_bind, RunM.outcome_tell_bind, RunM.outcome_call_bind]
  unfold settle
  rcases stage.readiness with _ | wait
  · rfl
  · dsimp only
    split
    · next hok =>
      rw [if_pos (show (seq.answered stage s).status.isOk = true from hok)]
      rfl
    · next hbad =>
      rw [if_neg (show ¬ (seq.answered stage s).status.isOk = true from hbad)]
      rfl

theorem yields_perform_split :
    (seq.perform stage).Yields s r s' ↔
      (seq.settle stage (seq.answered stage s) >>= conclude).Yields (seq.issued stage s) r s' :=
  RunM.yields_of_outcome_eq outcome_perform

theorem yields_settle_iff {t : Session σ} :
    (seq.settle stage (seq.answered stage s)).Yields (seq.issued stage s) r t ↔
      Settled seq stage s r t := by
  unfold settle
  constructor
  · intro h
    split at h
    · next wait hwait =>
      split at h
      · next hok =>
        obtain ⟨outcome, u, hrun, htold⟩ := RunM.yields_bind.1 h
        rw [RunM.yields_tell_bind, RunM.yields_pure] at htold
        obtain ⟨rfl, rfl⟩ := htold
        exact .awaited hwait hok hrun
      · next hbad =>
        obtain ⟨rfl, rfl⟩ := RunM.yields_pure.1 h
        exact .unawaited (.inr (Bool.eq_false_iff.2 hbad))
    · next hnone =>
      obtain ⟨rfl, rfl⟩ := RunM.yields_pure.1 h
      exact .unawaited (.inl hnone)
  · intro h
    cases h with
    | unawaited hnone =>
      rcases hnone with hnone | hbad
      · simp [hnone]
      · split <;> simp [hbad]
    | awaited hwait hok hrun =>
      simp only [hwait, hok, if_true]
      exact RunM.yields_bind.2
        ⟨_, _, hrun, RunM.yields_tell_bind.2 (RunM.yields_pure.2 ⟨rfl, rfl⟩)⟩

theorem yields_conclude_iff {r₀ : StageRecord} :
    (conclude r₀).Yields s r s' ↔
      r = { r₀ with endedAt := s.stamp } ∧ s' = s.told (.stageFinished r) := by
  rw [conclude, RunM.yields_stamp_bind, RunM.yields_tell_bind, RunM.yields_pure]
  exact and_congr_right fun hr => by rw [hr]

theorem yields_perform_iff :
    (seq.perform stage).Yields s r s' ↔
      ∃ r₀ t, Settled seq stage s r₀ t ∧ r = { r₀ with endedAt := t.stamp } ∧
        s' = t.told (.stageFinished r) := by
  rw [yields_perform_split, RunM.yields_bind]
  exact exists_congr fun r₀ => exists_congr fun t =>
    and_congr yields_settle_iff yields_conclude_iff

theorem Settled.name_eq (h : Settled seq stage s r s') : r.name = stage.name := by
  cases h with
  | unawaited => exact name_answered
  | awaited => rw [name_afterWait, name_answered]

theorem name_of_yields_perform (h : (seq.perform stage).Yields s r s') : r.name = stage.name := by
  obtain ⟨r₀, t, hsettled, rfl, -⟩ := yields_perform_iff.1 h
  exact hsettled.name_eq

theorem yields_stopReason {reason : String} :
    (stopReason r : RunM σ String).Yields s reason s' ↔ reason = haltReason r s ∧ s' = s := by
  unfold stopReason haltReason
  split
  · next failure hfailure => simp [hfailure]
  · next hnone =>
    rw [hnone]
    unfold RunM.cancelReason
    rw [RunM.yields_get_bind]
    exact RunM.yields_pure

theorem course_of_yields_runStages {stages : List Stage} {s : Session σ}
    {answer : List StageRecord × Option Stop} (h : (seq.runStages stages).Yields s answer s') :
    Course seq stages s answer.1 answer.2 s' := by
  induction stages generalizing s answer with
  | nil =>
    obtain ⟨rfl, rfl⟩ := RunM.yields_pure.1 h
    exact .done _
  | cons stage rest ih =>
    rw [runStages, RunM.yields_cancelled_bind] at h
    split at h
    · next reason hcancelled =>
      obtain ⟨rfl, rfl⟩ := RunM.yields_pure.1 h
      exact .preempted stage rest hcancelled
    next huncancelled =>
    obtain ⟨r, t, hperform, h⟩ := RunM.yields_bind.1 h
    split at h
    · next hends =>
      obtain ⟨reason, u, hreason, h⟩ := RunM.yields_bind.1 h
      obtain ⟨rfl, rfl⟩ := yields_stopReason.1 hreason
      obtain ⟨rfl, rfl⟩ := RunM.yields_pure.1 h
      exact .halted rest huncancelled hperform hends
    · next hgoes =>
      obtain ⟨later, u, hlater, h⟩ := RunM.yields_bind.1 h
      obtain ⟨rfl, rfl⟩ := RunM.yields_pure.1 h
      exact .next huncancelled hperform (Bool.eq_false_iff.2 hgoes) (ih hlater)

theorem Course.yields_runStages (h : Course seq stages s rs stop s') :
    (seq.runStages stages).Yields s (rs, stop) s' := by
  induction h with
  | done s => exact RunM.yields_pure.2 ⟨rfl, rfl⟩
  | preempted stage rest hcancelled =>
    rw [runStages, RunM.yields_cancelled_bind, hcancelled]
    exact RunM.yields_pure.2 ⟨rfl, rfl⟩
  | halted rest huncancelled hperform hends =>
    rw [runStages, RunM.yields_cancelled_bind, huncancelled]
    refine RunM.yields_bind.2 ⟨_, _, hperform, ?_⟩
    rw [if_pos hends]
    refine RunM.yields_bind.2 ⟨_, _, yields_stopReason.2 ⟨rfl, rfl⟩, ?_⟩
    exact RunM.yields_pure.2 ⟨rfl, rfl⟩
  | next huncancelled hperform hgoes _ ih =>
    rw [runStages, RunM.yields_cancelled_bind, huncancelled]
    refine RunM.yields_bind.2 ⟨_, _, hperform, ?_⟩
    rw [if_neg (by simp [hgoes])]
    exact RunM.yields_bind.2 ⟨_, _, ih, RunM.yields_pure.2 ⟨rfl, rfl⟩⟩

/-- A sequence answers what the course of its stages comes to. -/
theorem yields_run_iff {direction : Direction} {record : SequenceRecord} :
    (seq.run direction stages).Yields s record s' ↔
      record.direction = direction ∧ Course seq stages s record.results record.stop s' := by
  rw [run, RunM.yields_bind]
  constructor
  · rintro ⟨answer, t, hanswer, h⟩
    obtain ⟨rfl, rfl⟩ := RunM.yields_pure.1 h
    exact ⟨rfl, course_of_yields_runStages hanswer⟩
  · rintro ⟨rfl, hcourse⟩
    exact ⟨_, _, hcourse.yields_runStages, RunM.yields_pure.2 ⟨rfl, rfl⟩⟩

/-- The stages are run if nothing stopped those before them. -/
def Continues (seq : Conductor σ) (stages : List Stage) (earlier : Option Stop) (s : Session σ)
    (rs : List StageRecord) (stop : Option Stop) (s' : Session σ) : Prop :=
  match earlier with
  | none => Course seq stages s rs stop s'
  | some _ => rs = [] ∧ stop = none ∧ s' = s

theorem continues_nil {earlier : Option Stop} : Continues seq [] earlier s [] none s := by
  cases earlier with
  | none => exact .done s
  | some => exact ⟨rfl, rfl, rfl⟩

theorem continues_of_stopped {earlier : Option Stop} (h : earlier.isNone = false) :
    Continues seq stages earlier s [] none s := by
  cases earlier with
  | none => cases h
  | some => exact ⟨rfl, rfl, rfl⟩

theorem Course.append {rs₁ rs₂ : List StageRecord} {stop₁ stop₂ : Option Stop} {t : Session σ}
    (h : Course seq xs s rs₁ stop₁ t) (hthen : Continues seq ys stop₁ t rs₂ stop₂ s') :
    Course seq (xs ++ ys) s (rs₁ ++ rs₂) (stop₁.or stop₂) s' := by
  induction h with
  | done s => exact hthen
  | preempted stage rest hcancelled =>
    obtain ⟨rfl, rfl, rfl⟩ := hthen
    exact .preempted stage (rest ++ ys) hcancelled
  | halted rest huncancelled hperform hends =>
    obtain ⟨rfl, rfl, rfl⟩ := hthen
    exact .halted (rest ++ ys) huncancelled hperform hends
  | next huncancelled hperform hgoes _ ih => exact .next huncancelled hperform hgoes (ih hthen)

theorem Course.zip_append {rs₁ rs₂ : List StageRecord} {stop₁ stop₂ : Option Stop}
    {t u : Session σ} (h : Course seq xs s rs₁ stop₁ t)
    (hthen : Continues seq ys stop₁ u rs₂ stop₂ s') :
    (xs ++ ys).zip (rs₁ ++ rs₂) = xs.zip rs₁ ++ ys.zip rs₂ := by
  induction h with
  | done => rfl
  | preempted =>
    obtain ⟨rfl, -, -⟩ := hthen
    simp
  | halted =>
    obtain ⟨rfl, -, -⟩ := hthen
    simp
  | next _ _ _ _ ih => simp [ih hthen]

theorem Course.names_prefix (h : Course seq stages s rs stop s') :
    rs.map (·.name) <+: stages.map (·.name) := by
  induction h with
  | done => exact List.prefix_rfl
  | preempted => exact List.nil_prefix
  | halted _ _ hperform => simp [name_of_yields_perform hperform]
  | next _ hperform _ _ ih =>
    simpa [name_of_yields_perform hperform] using ih

theorem Course.names_eq (h : Course seq stages s rs none s') :
    rs.map (·.name) = stages.map (·.name) := by
  -- Only the rules that leave no stop remain.
  generalize hstop : (none : Option Stop) = stop at h
  induction h with
  | done => rfl
  | preempted | halted => cases hstop
  | next _ hperform _ _ ih => simp [name_of_yields_perform hperform, ih hstop]

/-- What holds of every stage and the record that it leaves, holds of those of a sequence. -/
theorem Course.forall_mem_zip {P : Stage → StageRecord → Prop}
    (hperform : ∀ {stage s r s'}, (seq.perform stage).Yields s r s' → P stage r)
    (h : Course seq stages s rs stop s') {p : Stage × StageRecord} (hp : p ∈ stages.zip rs) :
    P p.1 p.2 := by
  induction h with
  | done | preempted => simp at hp
  | halted _ _ hyields =>
    obtain rfl : p = _ := by simpa using hp
    exact hperform hyields
  | next _ hyields _ _ ih =>
    rcases List.mem_cons.1 hp with rfl | hp
    · exact hperform hyields
    · exact ih hp

theorem Continues.forall_mem_zip {P : Stage → StageRecord → Prop}
    (hperform : ∀ {stage s r s'}, (seq.perform stage).Yields s r s' → P stage r)
    {earlier : Option Stop} (h : Continues seq stages earlier s rs stop s')
    {p : Stage × StageRecord} (hp : p ∈ stages.zip rs) : P p.1 p.2 := by
  cases earlier with
  | none => exact Course.forall_mem_zip hperform h hp
  | some =>
    obtain ⟨rfl, -, -⟩ := h
    simp at hp

theorem Course.name_of_mem_zip (h : Course seq stages s rs stop s') {p : Stage × StageRecord}
    (hp : p ∈ stages.zip rs) : p.2.name = p.1.name :=
  h.forall_mem_zip name_of_yields_perform hp

theorem Continues.name_of_mem_zip {earlier : Option Stop}
    (h : Continues seq stages earlier s rs stop s') {p : Stage × StageRecord}
    (hp : p ∈ stages.zip rs) : p.2.name = p.1.name :=
  Continues.forall_mem_zip name_of_yields_perform h hp

theorem Course.exists_stage_of_stop {halt : Stop} (h : Course seq stages s rs (some halt) s') :
    ∃ stage ∈ stages, halt.stage = stage.name := by
  generalize hstop : some halt = stop at h
  induction h with
  | done => cases hstop
  | preempted stage =>
    cases hstop
    exact ⟨stage, by simp, rfl⟩
  | @halted stage _ _ _ _ _ hperform =>
    cases hstop
    exact ⟨stage, by simp, name_of_yields_perform hperform⟩
  | next _ _ _ _ ih =>
    obtain ⟨stage, hmem, hname⟩ := ih hstop
    exact ⟨stage, List.mem_cons_of_mem _ hmem, hname⟩

end MeshTestbed.Conductor
