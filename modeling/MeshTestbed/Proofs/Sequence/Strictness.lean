import MeshTestbed.Proofs.Sequence.Cancellation
import MeshTestbed.Proofs.Sequence.Report
import Mathlib.Data.List.Forall2

/-!
A sequence is laxer than another if it has more tolerances, tried after those of the other, or goes
on after timeouts at which the other fails. The two go the same way until the stricter one fails.
-/

namespace MeshTestbed

variable {σ α β : Type}

def TimeoutResponse.Relaxes (policy lax : TimeoutResponse) : Prop :=
  lax = policy ∨ lax = .continue

/-- The same stage, which may go on after timeouts where the first one fails. -/
structure Stage.Relaxes (stage lax : Stage) : Prop where
  name_eq : lax.name = stage.name
  action_eq : lax.action = stage.action
  readiness_eq : lax.readiness = stage.readiness
  onTimeout : stage.onTimeout.Relaxes lax.onTimeout
  teardownReadiness_eq : lax.teardownReadiness = stage.teardownReadiness
  teardownOnTimeout : stage.teardownOnTimeout.Relaxes lax.teardownOnTimeout

namespace Stage.Relaxes

variable {stage lax : Stage}

theorem undo? (h : stage.Relaxes lax) : Option.Rel Stage.Relaxes stage.undo? lax.undo? := by
  unfold Stage.undo?
  rw [h.action_eq]
  cases stage.action.undo? with
  | none => exact .none
  | some action =>
    exact .some
      { name_eq := by simp [h.name_eq]
        action_eq := rfl
        readiness_eq := h.teardownReadiness_eq
        onTimeout := h.teardownOnTimeout
        teardownReadiness_eq := rfl
        teardownOnTimeout := .inl rfl }

theorem undoing {stages laxer : List Stage} (h : List.Forall₂ Stage.Relaxes stages laxer) :
    List.Forall₂ Stage.Relaxes (Conductor.undoing stages) (Conductor.undoing laxer) :=
  List.rel_filterMap (fun _ _ hrelaxes => hrelaxes.undo?) (List.rel_reverse h)

end Stage.Relaxes

theorem Tolerances.label?_append {rules extra : Tolerances} {kind : ActionKind} {effect : Effect}
    {o : Completion} {label : String} (h : rules.label? kind effect o = some label) :
    label? (rules ++ extra) kind effect o = some label := by
  unfold label? at h ⊢
  split at h
  · cases h
  · next hfailed =>
    obtain ⟨rule, hrule, rfl⟩ := Option.map_eq_some_iff.1 h
    rw [if_neg hfailed, List.find?_append, hrule]
    rfl

theorem Session.Heeds.log_suffix {early late : Call → Prop} {s s' : Session σ}
    (h : Heeds early late s s') : s.log <:+ s'.log := by
  obtain ⟨before, after, hhanded, -, -⟩ := h
  exact ⟨after ++ before, hhanded.log_eq.symm⟩

theorem RunM.log_suffix_bind {m : RunM σ α} {f : α → RunM σ β} {s : Session σ}
    (hf : ∀ a t, t.log <:+ ((f a).outcome t).2.log) :
    (m.outcome s).2.log <:+ (outcome (m >>= f) s).2.log := by
  rw [outcome_bind]
  rcases m.outcome s with ⟨e | a, t⟩
  · exact List.suffix_rfl
  · exact hf a t

namespace Conductor

/-- The conductor with further tolerances, tried after its own. -/
def widened (seq : Conductor σ) (extra : Tolerances) : Conductor σ :=
  { seq with tolerance := seq.tolerance ++ extra }

variable {seq : Conductor σ} {extra : Tolerances} {stage lax : Stage} {stages laxer : List Stage}
  {r : StageRecord} {s : Session σ}

theorem log_suffix_settle {t : Session σ} :
    t.log <:+ ((seq.settle stage r >>= conclude).outcome t).2.log := by
  have hheeds : Session.Heeds (fun _ => True) (fun _ => True) t
      ((seq.settle stage r).outcome t).2 := heeds_settle fun _ _ => True.intro
  apply hheeds.log_suffix.trans
  apply RunM.log_suffix_bind
  intro _ _
  exact List.suffix_rfl

theorem log_suffix_runStages {t : Session σ} :
    t.log <:+ ((seq.runStages stages).outcome t).2.log := by
  have hheeds : Session.Heeds (fun _ => True) (fun _ => True) t
      ((seq.runStages stages).outcome t).2 := heeds_runStages fun _ _ _ _ => True.intro
  exact hheeds.log_suffix

theorem afterCommand_widened (r : StageRecord) (hrelaxes : stage.Relaxes lax) (rules : Tolerances)
    (answer : Except CommandFailure Completion) :
    r.afterCommand lax (rules ++ extra) answer = r.afterCommand stage rules answer ∨
      (r.afterCommand stage rules answer).status = .failed := by
  have haction := hrelaxes.action_eq
  unfold StageRecord.afterCommand Stage.kind Stage.effect
  rw [haction]
  rcases answer with err | o
  · exact .inl rfl
  · dsimp only
    by_cases hok : o.isOk = true
    · simp [hok]
    · rcases hlabel : rules.label? stage.action.kind stage.action.effect o with _ | label
      · right
        simp [hok]
      · left
        simp [hok, Tolerances.label?_append hlabel]

theorem afterWait_relaxed (r : StageRecord) {policy policy' : TimeoutResponse}
    (hrelaxes : policy.Relaxes policy') (outcome : WaitEnding) :
    r.afterWait policy' outcome = r.afterWait policy outcome ∨
      (r.afterWait policy outcome).status = .failed := by
  rcases hrelaxes with rfl | rfl
  · exact .inl rfl
  · cases outcome with
    | timedOut => cases policy <;> simp [StageRecord.afterWait]
    | satisfied | commandFailed | cancelled => exact .inl rfl

theorem answered_widened (seq : Conductor σ) (extra : Tolerances) (s : Session σ)
    (hrelaxes : stage.Relaxes lax) :
    (seq.widened extra).answered lax s = seq.answered stage s ∨
      (seq.answered stage s).status = .failed := by
  have hbegun : (seq.widened extra).begun lax s = seq.begun stage s := by
    simp [begun, widened, Stage.kind, hrelaxes.name_eq, hrelaxes.action_eq]
  have hcall : lax.action.call (seq.widened extra).tool = stage.action.call seq.tool := by
    rw [hrelaxes.action_eq]
    rfl
  unfold answered
  rw [hbegun, hcall]
  exact afterCommand_widened _ hrelaxes _ _

theorem issued_widened (hrelaxes : stage.Relaxes lax) :
    (seq.widened extra).issued lax s = seq.issued stage s := by
  simp [issued, announced, widened, Stage.kind, hrelaxes.name_eq, hrelaxes.action_eq]

theorem log_conclude : ((conclude r).outcome s).2.log = s.log := by
  have hends : (conclude r).Yields s _ _ := yields_conclude_iff.2 ⟨rfl, rfl⟩
  exact congrArg (fun answer => answer.2.log) hends

theorem fault_awaitReadiness {wait : Wait} {f : Fault} {t : Session σ} (stage : Stage)
    (r : StageRecord) (h : (wait.run seq.runner seq.tool).outcome s = (.error f, t)) :
    (seq.awaitReadiness stage wait r).outcome s = (.error f, t) :=
  RunM.outcome_bind_of_fault h

theorem yields_awaitReadiness {wait : Wait} {e : WaitEnding} {t : Session σ} (stage : Stage)
    (r : StageRecord) (h : (wait.run seq.runner seq.tool).Yields s e t) :
    (seq.awaitReadiness stage wait r).Yields s (r.afterWait stage.onTimeout e)
      (t.told (.pollFinished stage.name e)) :=
  RunM.yields_bind.2 ⟨e, t, h, RunM.yields_tell_bind.2 (RunM.yields_pure.2 ⟨rfl, rfl⟩)⟩

theorem awaitReadiness_widened (hrelaxes : stage.Relaxes lax) (wait : Wait) (r : StageRecord) :
    ((seq.widened extra).awaitReadiness lax wait r >>= conclude).outcome s =
        (seq.awaitReadiness stage wait r >>= conclude).outcome s ∨
      ∃ r' t, (seq.awaitReadiness stage wait r >>= conclude).Yields s r' t ∧
        r'.status = .failed ∧ t.log <:+
          (((seq.widened extra).awaitReadiness lax wait r >>= conclude).outcome s).2.log := by
  rcases hrun : (wait.run seq.runner seq.tool).outcome s with ⟨f | e, t⟩
  · left
    have hrun' : (wait.run (seq.widened extra).runner (seq.widened extra).tool).outcome s =
        (.error f, t) := hrun
    have hfault := fault_awaitReadiness stage r hrun
    have hfault' := fault_awaitReadiness lax r hrun'
    rw [RunM.outcome_bind_of_fault hfault, RunM.outcome_bind_of_fault hfault']
  · have hrun' : (wait.run (seq.widened extra).runner (seq.widened extra).tool).Yields s e t :=
      hrun
    have hstrict := yields_awaitReadiness stage r hrun
    have hlax := yields_awaitReadiness lax r hrun'
    rw [hrelaxes.name_eq] at hlax
    unfold RunM.Yields
    rw [RunM.outcome_bind_of_outcome hstrict, RunM.outcome_bind_of_outcome hlax]
    rcases afterWait_relaxed r hrelaxes.onTimeout e with hsame | hfailed
    · rw [hsame]
      exact .inl rfl
    · right
      refine ⟨_, _, yields_conclude_iff.2 ⟨rfl, rfl⟩, hfailed, ?_⟩
      rw [log_conclude]
      exact List.suffix_rfl

theorem perform_widened (seq : Conductor σ) (extra : Tolerances) (s : Session σ)
    (hrelaxes : stage.Relaxes lax) :
    ((seq.widened extra).perform lax).outcome s = (seq.perform stage).outcome s ∨
      ∃ r t, (seq.perform stage).Yields s r t ∧ r.status = .failed ∧
        t.log <:+ (((seq.widened extra).perform lax).outcome s).2.log := by
  unfold RunM.Yields
  rw [outcome_perform, outcome_perform, issued_widened hrelaxes]
  rcases answered_widened seq extra s hrelaxes with hanswered | hfailed
  · rw [hanswered]
    unfold settle
    rw [hrelaxes.readiness_eq]
    rcases stage.readiness with _ | wait
    · exact .inl rfl
    dsimp only
    split
    · exact awaitReadiness_widened hrelaxes wait _
    · exact .inl rfl
  · right
    have hsettle : seq.settle stage (seq.answered stage s) = pure (seq.answered stage s) := by
      unfold settle
      split <;> simp [hfailed, Status.isOk]
    rw [hsettle, pure_bind]
    refine ⟨_, _, yields_conclude_iff.2 ⟨rfl, rfl⟩, hfailed, ?_⟩
    rw [Session.log_told]
    exact log_suffix_settle

abbrev Answer (σ : Type) := Except Fault (List StageRecord × Option Stop) × Session σ

/-- The stages come to the same as the laxer ones, or one of them fails. All commands up to then,
and all records but that of the failure, are among those of the laxer ones as well. -/
inductive Truncates : Answer σ → Answer σ → Prop where
  | same (answer : Answer σ) : Truncates answer answer
  | failed {rs : List StageRecord} {halt : Stop} {s : Session σ} {answer : Answer σ}
    (hfailed : halt.status = .failed) (hlog : s.log <:+ answer.2.log)
    (hresults : ∀ rs' stop s', answer = (.ok (rs', stop), s') → rs.dropLast <+: rs') :
    Truncates (.ok (rs, some halt), s) answer

theorem Truncates.cons {m m' : RunM σ (List StageRecord × Option Stop)} (r : StageRecord)
    (h : Truncates (m.outcome s) (m'.outcome s)) :
    Truncates (RunM.outcome (m >>= fun answer => pure (r :: answer.1, answer.2)) s)
      (RunM.outcome (m' >>= fun answer => pure (r :: answer.1, answer.2)) s) := by
  rw [RunM.outcome_bind, RunM.outcome_bind]
  generalize m.outcome s = answer at h
  generalize m'.outcome s = answer' at h
  cases h with
  | same => exact .same _
  | @failed rs halt t _ hfailed hlog hresults =>
    rcases answer' with ⟨f | ⟨rs', stop⟩, t'⟩
    · exact .failed hfailed hlog (by simp)
    · refine .failed hfailed hlog ?_
      rintro _ _ _ ⟨⟩
      have hrest : rs.dropLast <+: rs' := hresults rs' stop t' rfl
      rcases rs with _ | ⟨r', rs⟩
      · simp
      · exact List.cons_prefix_cons.2 ⟨rfl, hrest⟩

theorem log_suffix_runStages_cons (huncancelled : s.cancelled = none) :
    ((seq.perform stage).outcome s).2.log <:+
      ((seq.runStages (stage :: stages)).outcome s).2.log := by
  rw [runStages, RunM.outcome_cancelled_bind, huncancelled]
  apply RunM.log_suffix_bind
  intro r t
  split
  · unfold stopReason
    split <;> exact List.suffix_rfl
  · apply log_suffix_runStages.trans
    exact RunM.log_suffix_bind fun _ _ => List.suffix_rfl

/-- Up to the first failure of the stages, the laxer ones go the same way. -/
theorem truncates_runStages (seq : Conductor σ) (extra : Tolerances) (s : Session σ)
    (hstages : List.Forall₂ Stage.Relaxes stages laxer) :
    Truncates ((seq.runStages stages).outcome s)
      (((seq.widened extra).runStages laxer).outcome s) := by
  induction hstages generalizing s with
  | nil => exact .same _
  | @cons stage lax rest laxerRest hrelaxes _ ih =>
    rcases hcancelled : s.cancelled with _ | reason
    · rcases perform_widened seq extra s hrelaxes with
        hsame | ⟨r, t, hperform, hfailed, hlog⟩
      · rw [runStages, runStages, RunM.outcome_cancelled_bind, RunM.outcome_cancelled_bind,
          hcancelled]
        dsimp only
        rw [RunM.outcome_bind, RunM.outcome_bind, hsame]
        rcases (seq.perform stage).outcome s with ⟨f | r, t⟩
        · exact .same _
        · dsimp only
          split
          · exact .same _
          · exact (ih t).cons r
      · have hends : r.status.endsSequence = true := by rw [hfailed]; rfl
        have hhalted := (Course.halted rest hcancelled hperform hends).yields_runStages
        rw [show _ = _ from hhalted]
        exact .failed hfailed (hlog.trans (log_suffix_runStages_cons hcancelled)) (by simp)
    · rw [runStages, runStages, RunM.outcome_cancelled_bind, RunM.outcome_cancelled_bind,
        hcancelled, hrelaxes.name_eq]
      exact .same _

/-- What a laxer run has in common with a stricter one. -/
structure Prolongs (strict lax : Except Fault SequenceRecord × Session σ) : Prop where
  /-- The commands of the stricter run, in order, are the first ones of the laxer run. -/
  log_prefix : strict.2.log.reverse <+: lax.2.log.reverse
  /-- All records but the last of the stricter run are records of the laxer run. -/
  results_prefix : ∀ record record', strict.1 = .ok record → lax.1 = .ok record' →
    record.results.dropLast <+: record'.results
  /-- Only a failure keeps the stricter run from being the laxer one. -/
  eq_of_not_failed : (∀ record halt, strict.1 = .ok record → record.stop = some halt →
    halt.status ≠ .failed) → lax = strict

theorem prolongs_run {direction : Direction}
    (hstages : List.Forall₂ Stage.Relaxes stages laxer) :
    Prolongs ((seq.run direction stages).outcome s)
      (((seq.widened extra).run direction laxer).outcome s) := by
  have htruncates := truncates_runStages seq extra s hstages
  rw [run, run, RunM.outcome_bind, RunM.outcome_bind]
  generalize (seq.runStages stages).outcome s = answer at htruncates
  generalize ((seq.widened extra).runStages laxer).outcome s = answer' at htruncates
  cases htruncates with
  | same =>
    exact
      { log_prefix := List.prefix_rfl
        results_prefix := by
          intro record record' hrecord hrecord'
          obtain rfl := Except.ok.inj (hrecord.symm.trans hrecord')
          exact List.dropLast_prefix _
        eq_of_not_failed := fun _ => rfl }
  | @failed rs halt t _ hfailed hlog hresults =>
    rcases answer' with ⟨f | ⟨rs', stop⟩, t'⟩
    · exact
        { log_prefix := List.reverse_prefix.2 hlog
          results_prefix := by simp
          eq_of_not_failed := fun h => absurd hfailed (h _ halt rfl rfl) }
    · exact
        { log_prefix := List.reverse_prefix.2 hlog
          results_prefix := by
            rintro _ _ ⟨⟩ ⟨⟩
            exact hresults rs' stop t' rfl
          eq_of_not_failed := fun h => absurd hfailed (h _ halt rfl rfl) }

/-- Further tolerances, and going on after timeouts, change a run in neither direction until it
fails. -/
theorem strictness_truncates (seq : Conductor σ) (extra : Tolerances) (s : Session σ)
    (hstages : List.Forall₂ Stage.Relaxes stages laxer) :
    Prolongs ((seq.carryOut stages).outcome s)
        (((seq.widened extra).carryOut laxer).outcome s) ∧
      Prolongs ((seq.undo stages).outcome s) (((seq.widened extra).undo laxer).outcome s) :=
  ⟨prolongs_run hstages, prolongs_run (Stage.Relaxes.undoing hstages)⟩

def urgent (stages : List Stage) : List Stage :=
  stages.map fun stage => { stage with onTimeout := .escalate }

/-- The pods never get ready: the strict run fails there, and the other goes on. -/
theorem strictness_truncates_of_web :
    (Prolongs ((rehearsal.carryOut (urgent webStages)).outcome { memory := [] })
        (((rehearsal.widened .standard).carryOut webStages).outcome { memory := [] }) ∧
      Prolongs ((rehearsal.undo (urgent webStages)).outcome { memory := [] })
        (((rehearsal.widened .standard).undo webStages).outcome { memory := [] })) ∧
    ((rehearsal.carryOut (urgent webStages)).outcome { memory := [] }).1.toOption.map
        (fun record => record.results.map (·.status)) = some [.succeeded, .failed] ∧
    ((rehearsal.carryOut webStages).outcome { memory := [] }).1.toOption.map
        (fun record => record.results.map (·.status)) = some [.succeeded, .timedOut] := by
  have hstages : List.Forall₂ Stage.Relaxes (urgent webStages) webStages :=
    .cons ⟨rfl, rfl, rfl, .inr rfl, rfl, .inl rfl⟩
      (.cons ⟨rfl, rfl, rfl, .inr rfl, rfl, .inl rfl⟩ .nil)
  exact ⟨strictness_truncates rehearsal .standard { memory := [] } hstages, by decide +kernel,
    by decide +kernel⟩

end Conductor

end MeshTestbed
