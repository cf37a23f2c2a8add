import MeshTestbed.Proofs.Sequence.Absence
import MeshTestbed.Proofs.Sequence.Cancellation
import MeshTestbed.Proofs.Sequence.Faults
import MeshTestbed.Proofs.Sequence.Lag
import Mathlib.Data.List.Forall2

namespace MeshTestbed

variable {σ : Type}

def Completion.reportsGone (o : Completion) : Bool := !o.isOk && o.saysGone

/-- How a delete is answered. All of a kind can be deleted though there is nothing of it. -/
def Action.isMoot : Action → Completion → Bool
  | .deleteCollection _ _, o => o.isOk
  | _, o => o.reportsGone

def Target.isMissing : Target → Completion → Bool
  | .collection _, o => o.isOk && Text.isBlankText o.stdout
  | _, o => o.reportsGone

def Runner.Answers (runner : Runner σ) (memory : σ) (among : List Call) (c : Call)
    (way : Completion → Bool) : Prop :=
  ∀ earlier ⊆ among, ∃ o,
    (runner.reply (runner.after memory earlier) c).1.result = .ok o ∧ way o = true

theorem Runner.Answers.after {runner : Runner σ} {memory : σ} {among calls : List Call} {c : Call}
    {way : Completion → Bool} (h : runner.Answers memory among c way) (hcalls : calls ⊆ among) :
    runner.Answers (runner.after memory calls) among c way := by
  intro earlier hearlier
  rw [← Runner.after_append]
  exact h _ (List.append_subset.2 ⟨hcalls, hearlier⟩)

/-- The stage takes something away and waits until it is gone. -/
structure Stage.Deletes (stage : Stage) : Prop where
  effect : stage.effect = .delete
  awaits : ∃ wait, stage.readiness = some wait ∧ wait.goal = .absent ∧ wait.fault? = none

/-- Nothing is left of what the stage deletes, and none of the commands brings it back. -/
structure Conductor.FindsNothing (seq : Conductor σ) (among : List Call) (memory : σ)
    (stage : Stage) : Prop where
  deletion : seq.runner.Answers memory among (stage.action.call seq.tool) stage.action.isMoot
  query : ∀ wait, stage.readiness = some wait →
    seq.runner.Answers memory among (wait.query seq.tool) wait.target.isMissing

theorem Conductor.FindsNothing.after {seq : Conductor σ} {among calls : List Call} {memory : σ}
    {stage : Stage} (h : seq.FindsNothing among memory stage) (hcalls : calls ⊆ among) :
    seq.FindsNothing among (seq.runner.after memory calls) stage :=
  ⟨h.deletion.after hcalls, fun wait hwait => (h.query wait hwait).after hcalls⟩

theorem Goal.judge_absent_of_isMissing {target : Target} {o : Completion}
    (h : target.isMissing o = true) : (absent.judge o).satisfied = true := by
  have hgone : o.reportsGone = true → (absent.judge o).satisfied = true := by
    intro hreports
    obtain ⟨hfailed, hsays⟩ := Bool.and_eq_true_iff.1 hreports
    rw [judge_absent_of_failed (by simpa using hfailed), hsays]
  cases target with
  | collection kind =>
    obtain ⟨hok, hblank⟩ := Bool.and_eq_true_iff.1 h
    rw [judge_absent_of_isOk hok, Completion.listsNothing, hblank, Bool.true_or, Bool.true_or]
  | named | manifest => exact hgone h

theorem Tolerance.accepts_of_saysGone {rule : Tolerance} {o : Completion}
    (hmarks : Goal.goneMarks ⊆ rule.patterns) (h : o.saysGone = true) :
    rule.accepts o = true := by
  obtain ⟨mark, hmark, hcontains⟩ := List.any_eq_true.1 h
  exact List.any_eq_true.2 ⟨mark, hmarks hmark, by simp [hcontains]⟩

theorem Tolerances.exists_label {rules : Tolerances} {rule : Tolerance} {o : Completion}
    (hrule : rule ∈ rules) (hfailed : o.isOk = false) (haccepts : rule.accepts o = true) :
    ∃ label, rules.label? rule.kind rule.effect o = some label :=
  Option.isSome_iff_exists.1
    (isSome_label?_iff.2 ⟨hfailed, rule, hrule, rfl, rfl, haccepts⟩)

theorem Tolerances.exists_label_of_reportsGone {kind : ActionKind} {o : Completion}
    (hkind : kind = .deleteManifest ∨ kind = .deleteNamespace) (h : o.reportsGone = true) :
    ∃ label, standard.label? kind .delete o = some label := by
  obtain ⟨hfailed, hsays⟩ := Bool.and_eq_true_iff.1 h
  have hlabel : ∀ rule ∈ standard, Goal.goneMarks ⊆ rule.patterns →
      ∃ label, standard.label? rule.kind rule.effect o = some label := fun rule hrule hmarks =>
    exists_label hrule (by simpa using hfailed) (rule.accepts_of_saysGone hmarks hsays)
  rcases hkind with rfl | rfl
  · exact hlabel ⟨.deleteManifest, .delete,
      ["NotFound", "not found", "the server doesn't have a resource type"],
      "resource-not-found"⟩ (by decide) (by decide)
  · exact hlabel ⟨.deleteNamespace, .delete, ["NotFound", "not found"], "namespace-not-found"⟩
      (by decide) (by decide)

/-- Milliseconds until the last of the commands is answered. -/
def Runner.timeOf (runner : Runner σ) : σ → List Call → Nat
  | _, [] => 0
  | memory, c :: calls =>
    (runner.reply memory c).1.duration + runner.timeOf (runner.reply memory c).2 calls

theorem Runner.timeOf_append {runner : Runner σ} {memory : σ} {calls later : List Call} :
    runner.timeOf memory (calls ++ later) =
      runner.timeOf memory calls + runner.timeOf (runner.after memory calls) later := by
  induction calls generalizing memory with
  | nil => simp [timeOf, Runner.after]
  | cons c calls ih =>
    rw [List.cons_append, timeOf, ih, timeOf, Nat.add_assoc]
    rfl

namespace Session

variable {runner : Runner σ} {calls later : List Call} {c : Call} {e : Event}
  {s s' s'' : Session σ}

/-- Between the sessions these commands were handed over, and no time but theirs has gone by. -/
structure Spends (runner : Runner σ) (calls : List Call) (s s' : Session σ) : Prop
    extends Issued runner calls s s' where
  now_eq : s'.now = s.now + runner.timeOf s.memory calls

theorem Spends.call : Spends runner [c] s (s.call runner c).2 :=
  ⟨.call, by simp [Runner.timeOf]⟩

theorem Spends.told (h : Spends runner calls s s') : Spends runner calls s (s'.told e) :=
  ⟨h.toIssued.told, h.now_eq⟩

theorem Spends.refl : Spends runner [] s s := ⟨.none rfl rfl, rfl⟩

theorem Spends.trans (h : Spends runner calls s s') (h' : Spends runner later s' s'') :
    Spends runner (calls ++ later) s s'' := by
  refine ⟨h.toIssued.trans h'.toIssued, ?_⟩
  rw [h'.now_eq, h.now_eq, h.memory_eq, Runner.timeOf_append, Nat.add_assoc]

theorem Spends.same {t t' : Session σ} (h : Spends runner calls s s')
    (h' : Spends runner calls t t') (hnow : t.now = s.now) (hmemory : t.memory = s.memory) :
    t'.now = s'.now ∧ t'.memory = s'.memory := by
  constructor
  · rw [h'.now_eq, h.now_eq, hnow, hmemory]
  · rw [h'.memory_eq, h.memory_eq, hmemory]

theorem spends_afterCalls : Spends runner calls s (s.afterCalls runner calls) := by
  induction calls generalizing s with
  | nil => exact .refl
  | cons c calls ih => exact Spends.call.trans ih

end Session

namespace Conductor

variable {seq : Conductor σ} {among : List Call} {stage : Stage} {stages : List Stage}
  {s t : Session σ}

/-- The stage has found nothing to delete, and has seen so at its first query. -/
structure FoundNothing (stage : Stage) (r : StageRecord) : Prop where
  name : r.name = stage.name
  status : r.status = if stage.kind = .deleteCollection then .succeeded else .tolerated
  waited : ∃ ms, r.waited = some (.satisfied 1 ms)

/-- The clock can show the deadline of every wait, if the stages take the time of their commands and
of one query each. -/
def fits (seq : Conductor σ) : List Stage → Session σ → Bool
  | [], _ => true
  | stage :: rest, s =>
    (stage.readiness.all fun wait => (seq.issued stage s).canWait wait.timeout) &&
      seq.fits rest (s.afterCalls seq.runner (seq.commandsIn stage))

theorem fits_congr (hnow : t.now = s.now) (hmemory : t.memory = s.memory) :
    seq.fits stages t = seq.fits stages s := by
  induction stages generalizing s t with
  | nil => rfl
  | cons stage rest ih =>
    have hissued : (seq.issued stage t).now = (seq.issued stage s).now := by
      simp [issued, announced, hnow, hmemory]
    have hspends : Session.Spends seq.runner (seq.commandsIn stage) s _ :=
      Session.spends_afterCalls
    obtain ⟨hnow', hmemory'⟩ := hspends.same Session.spends_afterCalls hnow hmemory
    rw [fits, fits, ih hnow' hmemory']
    simp only [Session.canWait, hissued]

theorem fits_of_spends (h : s.Spends seq.runner (seq.commandsIn stage) t) :
    seq.fits stages (s.afterCalls seq.runner (seq.commandsIn stage)) = seq.fits stages t := by
  obtain ⟨hnow, hmemory⟩ := h.same Session.spends_afterCalls rfl rfl
  exact fits_congr hnow hmemory

theorem spends_issued :
    s.Spends seq.runner [stage.action.call seq.tool] (seq.issued stage s) :=
  (Session.Spends.refl.told).trans .call

theorem quiet_issued (h : s.Quiet seq.runner) : (seq.issued stage s).Quiet seq.runner :=
  h.told.call

theorem status_answered_of_isMoot {o : Completion} (htable : seq.tolerance = .standard)
    (heffect : stage.effect = .delete)
    (hanswer : (s.call seq.runner (stage.action.call seq.tool)).1 = .ok o)
    (hmoot : stage.action.isMoot o = true) :
    (seq.answered stage s).status =
      if stage.kind = .deleteCollection then .succeeded else .tolerated := by
  have hnamed : stage.kind = .deleteManifest ∨ stage.kind = .deleteNamespace →
      o.reportsGone = true → (seq.answered stage s).status = .tolerated := by
    intro hkind hgone
    obtain ⟨label, hlabel⟩ := Tolerances.exists_label_of_reportsGone hkind hgone
    rw [answered_of_label hanswer (htable ▸ heffect ▸ hlabel)]
  have hevery : o.isOk = true → (seq.answered stage s).status = .succeeded := by
    intro hok
    have hanswer' : ((seq.announced stage s).call seq.runner (stage.action.call seq.tool)).1 =
        .ok o := hanswer
    rw [answered, hanswer', StageRecord.afterCommand, if_pos hok]
    rfl
  unfold Stage.effect at heffect
  unfold Stage.kind at *
  cases haction : stage.action with
  | deleteManifest =>
    rw [haction] at hmoot hnamed
    exact hnamed (.inl rfl) hmoot
  | deleteNamespace =>
    rw [haction] at hmoot hnamed
    exact hnamed (.inr rfl) hmoot
  | deleteCollection =>
    rw [haction] at hmoot
    exact hevery hmoot
  | applyManifest | createNamespace | runExternalScript =>
    rw [haction] at heffect
    cases heffect

theorem yields_perform_of_met {wait : Wait} {o : Completion}
    (hwait : stage.readiness = some wait) (hok : (seq.answered stage s).status.isOk = true)
    (hquiet : s.Quiet seq.runner)
    (hquery : ((seq.issued stage s).call seq.runner (wait.query seq.tool)).1 = .ok o)
    (hmet : (wait.goal.judge o).satisfied = true)
    (hcan : (seq.issued stage s).canWait wait.timeout = true) :
    ∃ r s', (seq.perform stage).Yields s r s' ∧ r.status = (seq.answered stage s).status ∧
      (∃ ms, r.waited = some (.satisfied 1 ms)) ∧
      s.Spends seq.runner (seq.commandsIn stage) s' ∧ s'.Quiet seq.runner := by
  have hquiet' : (seq.issued stage s).Quiet seq.runner := quiet_issued hquiet
  have hrun := Wait.yields_run_iff.2
    ⟨hcan, 1, by decide, .satisfied 0 hquiet'.cancelled hquery hmet⟩
  refine ⟨_, _, yields_perform_iff.2 ⟨_, _, .awaited hwait hok hrun, rfl, rfl⟩, rfl, ⟨_, rfl⟩,
    ?_, hquiet'.call.told.told⟩
  have hcommands : seq.commandsIn stage =
      [stage.action.call seq.tool] ++ [wait.query seq.tool] := by simp [commandsIn, hwait]
  rw [hcommands]
  exact (spends_issued.trans .call).told.told

/-- Nothing is left of what the stages delete, and nothing disturbs them. -/
structure Vacant (seq : Conductor σ) (among : List Call) (stages : List Stage) (s : Session σ) :
    Prop where
  table : seq.tolerance = .standard
  quiet : s.Quiet seq.runner
  deletes : ∀ stage ∈ stages, stage.Deletes
  finds : ∀ stage ∈ stages, seq.FindsNothing among s.memory stage
  commands : ∀ stage ∈ stages, seq.commandsIn stage ⊆ among

namespace Vacant

variable {rest : List Stage}

theorem status_answered (h : seq.Vacant among (stage :: rest) s) :
    (seq.answered stage s).status =
      if stage.kind = .deleteCollection then .succeeded else .tolerated := by
  obtain ⟨o, hanswer, hmoot⟩ :=
    (h.finds stage (List.mem_cons_self ..)).deletion [] (List.nil_subset _)
  exact status_answered_of_isMoot h.table (h.deletes stage (List.mem_cons_self ..)).effect hanswer
    hmoot

theorem isOk_answered (h : seq.Vacant among (stage :: rest) s) :
    (seq.answered stage s).status.isOk = true := by
  rw [h.status_answered]
  split <;> rfl

theorem perform (h : seq.Vacant among (stage :: rest) s)
    (hcan : ∀ wait, stage.readiness = some wait →
      (seq.issued stage s).canWait wait.timeout = true) :
    ∃ r t, (seq.perform stage).Yields s r t ∧ FoundNothing stage r ∧
      s.Spends seq.runner (seq.commandsIn stage) t ∧ seq.Vacant among rest t := by
  have hmem : stage ∈ stage :: rest := List.mem_cons_self ..
  have hcommands := h.commands stage hmem
  obtain ⟨wait, hwait, hgoal, -⟩ := (h.deletes stage hmem).awaits
  have hcommand : [stage.action.call seq.tool] ⊆ among := fun c hc =>
    hcommands (List.mem_cons.2 (.inl (List.mem_singleton.1 hc)))
  obtain ⟨o, hanswer, hmissing⟩ := (h.finds stage hmem).query wait hwait _ hcommand
  have hquery : ((seq.issued stage s).call seq.runner (wait.query seq.tool)).1 = .ok o := by
    rw [Session.answer_call, spends_issued.memory_eq]
    exact hanswer
  have hmet : (wait.goal.judge o).satisfied = true := by
    rw [hgoal]
    exact Goal.judge_absent_of_isMissing hmissing
  obtain ⟨r, t, hyields, hstatus, hwaited, hspends, hquiet⟩ :=
    yields_perform_of_met hwait h.isOk_answered h.quiet hquery hmet (hcan wait hwait)
  have hfound : FoundNothing stage r :=
    ⟨name_of_yields_perform hyields, hstatus.trans h.status_answered, hwaited⟩
  refine ⟨r, t, hyields, hfound, hspends, h.table, hquiet, ?_, ?_, ?_⟩
  · exact fun other hother => h.deletes other (List.mem_cons_of_mem _ hother)
  · intro other hother
    rw [hspends.memory_eq]
    exact (h.finds other (List.mem_cons_of_mem _ hother)).after hcommands
  · exact fun other hother => h.commands other (List.mem_cons_of_mem _ hother)

theorem fault_perform (h : seq.Vacant among (stage :: rest) s) {wait : Wait}
    (hwait : stage.readiness = some wait)
    (hcannot : (seq.issued stage s).canWait wait.timeout = false) :
    ((seq.perform stage).outcome s).1 = .error .deadlineOverflow := by
  obtain ⟨found, hfound, -, hvalid⟩ := (h.deletes stage (List.mem_cons_self ..)).awaits
  refine Conductor.fault_perform ⟨wait, hwait, h.isOk_answered, hcannot⟩ fun other hother => ?_
  exact Option.some.inj (hfound.symm.trans hother) ▸ hvalid

end Vacant

theorem FoundNothing.goesOn {r : StageRecord} (h : FoundNothing stage r) :
    r.status.endsSequence = false := by
  rw [h.status]
  split <;> rfl

theorem Vacant.course (h : seq.Vacant among stages s) (hfits : seq.fits stages s = true) :
    ∃ rs s', Course seq stages s rs none s' ∧ List.Forall₂ FoundNothing stages rs ∧
      s.Spends seq.runner (stages.flatMap seq.commandsIn) s' := by
  induction stages generalizing s with
  | nil => exact ⟨[], s, .done s, .nil, .refl⟩
  | cons stage rest ih =>
    obtain ⟨hcan, hfitsRest⟩ := Bool.and_eq_true_iff.1 hfits
    obtain ⟨r, t, hperform, hfound, hspends, hrest⟩ := h.perform ((Option.all_eq_true _ _).1 hcan)
    obtain ⟨rs, s', hcourse, hfoundRest, hspendsRest⟩ :=
      ih hrest (fits_of_spends hspends ▸ hfitsRest)
    exact ⟨r :: rs, s', .next h.quiet.cancelled hperform hfound.goesOn hcourse,
      .cons hfound hfoundRest, hspends.trans hspendsRest⟩

/-- A deadline that the clock cannot show ends the run. -/
theorem Vacant.fault_runStages (h : seq.Vacant among stages s)
    (hfits : seq.fits stages s = false) :
    ((seq.runStages stages).outcome s).1 = .error .deadlineOverflow := by
  induction stages generalizing s with
  | nil => cases hfits
  | cons stage rest ih =>
    rw [runStages, RunM.outcome_cancelled_bind, h.quiet.cancelled]
    rw [fits, Bool.and_eq_false_iff] at hfits
    by_cases hcan : (stage.readiness.all fun wait =>
        (seq.issued stage s).canWait wait.timeout) = true
    · obtain ⟨r, t, hperform, hfound, hspends, hrest⟩ := h.perform ((Option.all_eq_true _ _).1 hcan)
      have hfitsRest : seq.fits rest t = false := by
        rw [← fits_of_spends hspends]
        exact hfits.resolve_left (by simp [hcan])
      rw [RunM.outcome_bind_of_outcome hperform, if_neg (by simp [hfound.goesOn])]
      exact RunM.fault_bind (ih hrest hfitsRest)
    · obtain ⟨wait, hwait, hcannot⟩ := (Option.all_eq_false _ _).1 (Bool.eq_false_iff.2 hcan)
      exact RunM.fault_bind (h.fault_perform hwait hcannot)

end Conductor

end MeshTestbed
