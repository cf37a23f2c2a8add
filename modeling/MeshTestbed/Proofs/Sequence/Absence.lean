import MeshTestbed.Proofs.Sequence.Report
import MeshTestbed.Proofs.Text.Occurrence

namespace MeshTestbed

/-- A failed command says of what it was about that it is not there. -/
def Completion.saysGone (o : Completion) : Bool := Text.containsAny o.stderr Goal.goneMarks

def Completion.listsNothing (o : Completion) : Bool :=
  Text.isBlankText o.stdout || Text.contains o.stdout Goal.nothingFound

namespace Goal

variable {o : Completion}

theorem isTight_of_mem_goneMarks {mark : String} (h : mark ∈ goneMarks) :
    Text.IsTight mark.toList := by
  rcases List.mem_cons.1 h with rfl | h
  · exact ⟨⟨'N', _, rfl, by decide⟩, ⟨'d', _, rfl, by decide⟩⟩
  · obtain rfl := List.mem_singleton.1 h
    exact ⟨⟨'n', _, rfl, by decide⟩, ⟨'d', _, rfl, by decide⟩⟩

/-- The words are looked for in the trimmed text, which has them if and only if the text has. -/
theorem containsAny_trimmed_goneMarks {s : String} :
    Text.containsAny (Text.trimmed s) goneMarks = Text.containsAny s goneMarks := by
  have hmark : ∀ mark ∈ goneMarks, Text.contains (Text.trimmed s) mark = Text.contains s mark :=
    fun mark hmem => Text.contains_trimmed (isTight_of_mem_goneMarks hmem)
  unfold Text.containsAny
  rw [Bool.eq_iff_iff, List.any_eq_true, List.any_eq_true]
  exact exists_congr fun mark => and_congr_right fun hmem => by rw [hmark mark hmem]

theorem judge_absent_of_failed (hfailed : o.isOk = false) :
    (absent.judge o).satisfied = o.saysGone := by
  simp [judge, hfailed, judgeFailure, containsAny_trimmed_goneMarks, Completion.saysGone]

theorem isTight_nothingFound : Text.IsTight nothingFound.toList :=
  ⟨⟨'N', _, rfl, by decide⟩, ⟨'d', _, rfl, by decide⟩⟩

theorem judge_absent_of_isOk (hok : o.isOk = true) :
    (absent.judge o).satisfied = (o.listsNothing || Text.contains o.stderr nothingFound) := by
  have hblank : (Text.trimmed o.stdout).isEmpty = Text.isBlankText o.stdout := by
    rw [Bool.eq_iff_iff, String.isEmpty_iff, Text.trimmed_eq_empty_iff]
  simp only [judge, hok, if_true, judgeSuccess, hblank, Text.contains_trimmed isTight_nothingFound,
    Completion.listsNothing]

end Goal

theorem Tolerances.isOk_of_label {rules : Tolerances} {kind : ActionKind} {effect : Effect}
    {o : Completion} {label : String} (h : rules.label? kind effect o = some label) :
    o.isOk = false :=
  (isSome_label?_iff.1 (Option.isSome_of_eq_some h)).1

namespace Conductor

variable {σ : Type} {seq : Conductor σ} {stage : Stage} {s : Session σ}

theorem answered_of_label {o : Completion} {label : String}
    (hanswer : (s.call seq.runner (stage.action.call seq.tool)).1 = .ok o)
    (hlabel : seq.tolerance.label? stage.kind stage.effect o = some label) :
    seq.answered stage s =
      { seq.begun stage s with
        status := .tolerated
        exitCode := o.exitCode
        stderr := Text.trimmed o.stderr
        tolerated := some label } := by
  have hanswer' : ((seq.announced stage s).call seq.runner (stage.action.call seq.tool)).1 =
      .ok o := hanswer
  have hfailed : o.isOk = false := Tolerances.isOk_of_label hlabel
  simp [answered, hanswer', StageRecord.afterCommand, hfailed, hlabel]

/-- A tolerated delete whose first query finds nothing left ends there, unless it is cancelled
before that query. -/
theorem perform_of_gone {wait : Wait} {o o' : Completion} {label : String}
    (hwait : stage.readiness = some wait) (hgoal : wait.goal = .absent)
    (hanswer : (s.call seq.runner (stage.action.call seq.tool)).1 = .ok o)
    (hlabel : seq.tolerance.label? stage.kind stage.effect o = some label)
    (hquery : ((seq.issued stage s).call seq.runner (wait.query seq.tool)).1 = .ok o')
    (hfailed : o'.isOk = false) (hgone : o'.saysGone = true)
    (hcan : (seq.issued stage s).canWait wait.timeout = true) :
    ∃ r s', (seq.perform stage).Yields s r s' ∧
      match (seq.issued stage s).cancelled with
      | none => r.status = .tolerated ∧ r.tolerated = some label ∧
          ∃ ms, r.waited = some (.satisfied 1 ms)
      | some reason => r.status = .cancelled ∧ r.waited = some (.cancelled 0 reason) := by
  have hrecord := answered_of_label hanswer hlabel
  have hok : (seq.answered stage s).status.isOk = true := by rw [hrecord]; rfl
  rcases hcancelled : (seq.issued stage s).cancelled with _ | reason
  · have hmet : (wait.goal.judge o').satisfied = true := by
      rw [hgoal, Goal.judge_absent_of_failed hfailed]
      exact hgone
    have hrun := Wait.yields_run_iff.2
      ⟨hcan, 1, by decide, .satisfied 0 hcancelled hquery hmet⟩
    refine ⟨_, _, yields_perform_iff.2 ⟨_, _, .awaited hwait hok hrun, rfl, rfl⟩, ?_⟩
    rw [hrecord]
    exact ⟨rfl, rfl, _, rfl⟩
  · have hrun : (wait.run seq.runner seq.tool).Yields (seq.issued stage s)
        (.cancelled 0 reason) (seq.issued stage s) :=
      Wait.yields_run_iff.2 ⟨hcan, 0, by decide, .cancelled 0 hcancelled⟩
    exact ⟨_, _, yields_perform_iff.2 ⟨_, _, .awaited hwait hok hrun, rfl, rfl⟩, rfl, rfl⟩

/-- Of the rejections of deletes that the standard table tolerates, those that say "not found" are
the ones that end a wait for absence. A deleting stage that meets with such rejections alone is
tolerated at the first query. -/
theorem tolerated_at_first_query :
    (∀ (kind : ActionKind) (o : Completion) (label : String),
      Tolerances.standard.label? kind .delete o = some label →
      (Goal.absent.judge o).satisfied = o.saysGone) ∧
    ∀ (σ : Type) (seq : Conductor σ) (stage : Stage) (wait : Wait) (s : Session σ)
      (o o' : Completion) (label label' : String),
      seq.tolerance = .standard → stage.effect = .delete →
      stage.readiness = some wait → wait.goal = .absent →
      (s.call seq.runner (stage.action.call seq.tool)).1 = .ok o →
      Tolerances.standard.label? stage.kind .delete o = some label →
      ((seq.issued stage s).call seq.runner (wait.query seq.tool)).1 = .ok o' →
      Tolerances.standard.label? stage.kind .delete o' = some label' → o'.saysGone = true →
      (seq.issued stage s).canWait wait.timeout = true →
      ∃ r s', (seq.perform stage).Yields s r s' ∧
        match (seq.issued stage s).cancelled with
        | none => r.status = .tolerated ∧ r.tolerated = some label ∧
            ∃ ms, r.waited = some (.satisfied 1 ms)
        | some reason => r.status = .cancelled ∧ r.waited = some (.cancelled 0 reason) := by
  constructor
  · intro kind o label hlabel
    exact Goal.judge_absent_of_failed (Tolerances.isOk_of_label hlabel)
  · intro σ seq stage wait s o o' label label' htable heffect hwait hgoal hanswer hlabel hquery
      hlabel' hgone hcan
    have hlabel : seq.tolerance.label? stage.kind stage.effect o = some label := by
      rw [htable, heffect]
      exact hlabel
    exact perform_of_gone hwait hgoal hanswer hlabel hquery (Tolerances.isOk_of_label hlabel')
      hgone hcan

def controlPlaneDelete : Stage :=
  { name := "delete-control-plane"
    action := .deleteManifest (some "istio-system") (.file "control_plane.yaml")
    readiness := some (.absent (.named "smcp" "basic") (some "istio-system")) }

def notFound : Completion :=
  { stderr := "Error from server (NotFound): smcp \"basic\" not found", exitCode := some 1 }

theorem tolerated_at_first_query_of_notFound :
    (Goal.absent.judge notFound).satisfied = true ∧
    ∃ r s', (rehearsal.perform controlPlaneDelete).Yields
        { memory := [{ result := .ok notFound }] } r s' ∧
      r.status = .tolerated ∧ r.tolerated = some "resource-not-found" ∧
      ∃ ms, r.waited = some (.satisfied 1 ms) := by
  have hlabel : Tolerances.standard.label? .deleteManifest .delete notFound =
      some "resource-not-found" := by decide +kernel
  have hgone : notFound.saysGone = true := by decide +kernel
  obtain ⟨hjudge, hstage⟩ := tolerated_at_first_query
  refine ⟨(hjudge .deleteManifest notFound _ hlabel).trans hgone, ?_⟩
  exact hstage _ rehearsal controlPlaneDelete _ { memory := [{ result := .ok notFound }] }
    notFound notFound _ _ rfl rfl rfl rfl rfl hlabel rfl hlabel hgone (by decide +kernel)

def leftoversDelete : Stage :=
  (Stage.deleteCollection "delete-operator-csvs" "csv" "openshift-operators").awaiting
    (.absent (.collection "csv") (some "openshift-operators")) .continue

def typeGone : Completion :=
  { stderr := "error: the server doesn't have a resource type \"csv\"", exitCode := some 1 }

/-- The kind itself may be gone. That is tolerated of a delete, but proves no absence, and the stage
waits until its time is over. -/
theorem timedOut_of_typeGone :
    Tolerances.standard.label? leftoversDelete.kind .delete typeGone =
      some "resource-type-gone" ∧
    (Goal.absent.judge typeGone).satisfied = false ∧
    ∃ r s', (rehearsal.perform leftoversDelete).Yields
        { memory := [{ result := .ok typeGone }] } r s' ∧
      r.status = .timedOut := by
  have hstatus : ((rehearsal.perform leftoversDelete).outcome
      { memory := [{ result := .ok typeGone }] }).1.toOption.map (·.status) =
        some .timedOut := by decide +kernel
  refine ⟨by decide +kernel, by decide +kernel, ?_⟩
  rcases hrun : (rehearsal.perform leftoversDelete).outcome
    { memory := [{ result := .ok typeGone }] } with ⟨f | r, s'⟩
  · simp [hrun, Except.toOption] at hstatus
  · exact ⟨r, s', hrun, by simpa [hrun, Except.toOption] using hstatus⟩

end Conductor

end MeshTestbed
