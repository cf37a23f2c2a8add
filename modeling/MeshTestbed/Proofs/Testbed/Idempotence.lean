import MeshTestbed.Proofs.Sequence.Vacancy
import MeshTestbed.Proofs.Stage.Validation
import MeshTestbed.Proofs.Plan.Removal
import MeshTestbed.Proofs.Testbed.Entry
import MeshTestbed.Proofs.Testbed.Verdict

namespace MeshTestbed

variable {σ : Type}

theorem Action.Reverses.effect_eq {action undoing : Action} (h : undoing.Reverses action) :
    undoing.effect = .delete := by
  cases h <;> rfl

namespace Plan

variable {p : Plan} {tool : ClusterTool} {stage : Stage}

theorem effect_of_mem_removal (h : stage ∈ p.removal tool) : stage.effect = .delete := by
  rcases List.mem_append.1 h with hundone | hcleanup
  · obtain ⟨undone, -, hundo⟩ := mem_undoing_iff.1 hundone
    exact (Stage.reverses_of_undo hundo).effect_eq
  · unfold cleanup at hcleanup
    split at hcleanup
    · obtain rfl := List.mem_singleton.1 hcleanup
      rfl
    · cases hcleanup

theorem deletes_of_mem_removal (hchecked : Stage.checkAll (p.removal tool) = .ok ())
    (h : stage ∈ p.removal tool) : stage.Deletes := by
  obtain ⟨wait, hwait, hgoal, -⟩ := awaitsGone_of_mem_removal h
  exact ⟨effect_of_mem_removal h, wait, hwait, hgoal, Stage.waitFault_of_checkAll hchecked h hwait⟩

end Plan

namespace Testbed

variable {t : Testbed σ} {s : Session σ}

def removalCalls (t : Testbed σ) : List Call :=
  t.probe :: (t.plan.removal t.tool).flatMap t.conductor.commandsIn

/-- Nothing of the testbed is left, and the uninstall brings nothing back. -/
def IsGone (t : Testbed σ) (s : Session σ) : Prop :=
  ∀ stage ∈ t.plan.removal t.tool, t.conductor.FindsNothing t.removalCalls s.memory stage

def entered (t : Testbed σ) (s : Session σ) : Session σ := (s.call t.runner t.probe).2

theorem hasOverruns_of_foundNothing {record : SequenceRecord} {stages : List Stage}
    (h : List.Forall₂ Conductor.FoundNothing stages record.results) :
    record.hasOverruns = false := by
  have hstatus : ∀ stage r, Conductor.FoundNothing stage r → r.status ≠ .timedOut := by
    intro stage r hfound
    rw [hfound.status]
    split <;> simp
  unfold SequenceRecord.hasOverruns
  generalize record.results = rs at h
  induction h with
  | nil => rfl
  | cons hfound _ ih => simp [hstatus _ _ hfound, ih]

theorem LetIn.vacant {runId : String} (hin : t.LetIn (t.plan.removal t.tool) s)
    (htable : t.tolerance = .standard) (hquiet : s.Quiet t.runner) (hgone : t.IsGone s) :
    t.conductor.Vacant t.removalCalls (t.plan.removal t.tool)
      ((t.entered s).told (.runStarted runId "uninstall")) where
  table := htable
  quiet := hquiet.call.told
  deletes _ hmem := Plan.deletes_of_mem_removal hin.stages hmem
  finds stage hmem := by
    have hprobe : [t.probe] ⊆ t.removalCalls := by simp [removalCalls]
    have hmemory : (t.entered s).memory = t.runner.after s.memory [t.probe] := Session.memory_call
    rw [Session.memory_told, hmemory]
    exact (hgone stage hmem).after hprobe
  commands stage hmem c hc := List.mem_cons_of_mem _ (List.mem_flatMap.2 ⟨stage, hmem, hc⟩)

/-- An uninstall that passes the checks at entry, finds nothing left and is not cancelled succeeds:
its deletes are tolerated, its cleanup succeeds, each wait ends with its first query, and the clock
moves by no more than the commands take. If the clock cannot show the deadline of a wait, there is
no record instead. -/
theorem uninstall_of_isGone (t : Testbed σ) (runId : String) (s : Session σ)
    (htable : t.tolerance = .standard) (hin : t.LetIn (t.plan.removal t.tool) s)
    (hquiet : s.Quiet t.runner) (hgone : t.IsGone s) :
    (t.conductor.fits (t.plan.removal t.tool) (t.entered s) = true →
      ∃ record s', (t.uninstall runId).Yields s (.ok record) s' ∧ record.verdict = .succeeded ∧
        record.sequence.stop = none ∧
        List.Forall₂ Conductor.FoundNothing (t.plan.removal t.tool) record.sequence.results ∧
        s.Spends t.runner t.removalCalls s') ∧
    (t.conductor.fits (t.plan.removal t.tool) (t.entered s) = false →
      ((t.uninstall runId).outcome s).1 = .error .deadlineOverflow) := by
  let started := (t.entered s).told (.runStarted runId "uninstall")
  have hvacant : t.conductor.Vacant t.removalCalls (t.plan.removal t.tool) started :=
    hin.vacant htable hquiet hgone
  have hfits : t.conductor.fits (t.plan.removal t.tool) started =
      t.conductor.fits (t.plan.removal t.tool) (t.entered s) := Conductor.fits_congr rfl rfl
  constructor
  · intro hfit
    obtain ⟨rs, s', hcourse, hfound, hspends⟩ := hvacant.course (hfits.trans hfit)
    have hsequence : t.uninstallSequence.Yields started ⟨.backward, rs, none⟩ s' := by
      rw [uninstallSequence_eq]
      exact Conductor.yields_run_iff.2 ⟨rfl, hcourse⟩
    obtain ⟨record, hyields, hrecord, hverdict⟩ := hin.yields_uninstall hsequence
    refine ⟨record, _, hyields, ?_, by rw [hrecord], by rw [hrecord]; exact hfound, ?_⟩
    · rw [hverdict, Verdict.ofSequence_of_complete rfl, hasOverruns_of_foundNothing hfound]
      rfl
    · exact ((Session.Spends.call.told).trans hspends).told
  · intro hunfit
    have hfault : (t.uninstallSequence.outcome started).1 = .error .deadlineOverflow := by
      rw [uninstallSequence_eq]
      exact RunM.fault_bind (hvacant.fault_runStages (hfits.trans hunfit))
    rcases houtcome : t.uninstallSequence.outcome started with ⟨answer, s'⟩
    obtain rfl : answer = .error .deadlineOverflow := by rwa [houtcome] at hfault
    rw [hin.fault_uninstall houtcome]

/-- What a cluster without a testbed answers: there are no leftovers of operators to delete or to
list, and nothing else is found. -/
def bareAnswer (c : Call) : Completion :=
  if c.argv.contains "whoami" || c.argv.contains Plan.leftoverKind then {}
  else { stderr := "Error from server (NotFound): not found", exitCode := some 1 }

def bare (deletionTimeout : Span) : Testbed Unit where
  plan :=
    { Plan.standard with
      operators := { ns := "openshift-operators", source := .manifest "operator.yaml" }
      selection := ⟨true, false, true⟩
      waits := { Pacing.standard with deletion := ⟨.ofSecs 5, deletionTimeout, .continue⟩ } }
  runner := { reply := fun _ c => ({ result := .ok (bareAnswer c), duration := 7 }, ()) }
  tool := {}

open Conductor (endlessTimeout)

theorem bare_isGone {deletionTimeout : Span}
    (h : deletionTimeout = .ofSecs 300 ∨ deletionTimeout = endlessTimeout) :
    (bare deletionTimeout).LetIn ((bare deletionTimeout).plan.removal {}) { memory := () } ∧
      Session.Quiet (bare deletionTimeout).runner { memory := () } ∧
      (bare deletionTimeout).IsGone { memory := () } := by
  have hin : (bare deletionTimeout).LetIn ((bare deletionTimeout).plan.removal {})
      { memory := () } := by
    rcases h with rfl | rfl
    · exact ⟨by decide, by decide +kernel, ⟨{}, by decide +kernel⟩, by decide +kernel⟩
    · exact ⟨by decide, by decide +kernel, ⟨{}, by decide +kernel⟩, by decide +kernel⟩
  have hanswers : ∀ stage ∈ (bare deletionTimeout).plan.removal {},
      stage.action.isMoot (bareAnswer (stage.action.call {})) = true ∧
        (stage.readiness.all fun wait =>
          wait.target.isMissing (bareAnswer (wait.query {}))) = true := by
    rcases h with rfl | rfl
    · decide +kernel
    · decide +kernel
  refine ⟨hin, ⟨rfl, rfl, fun _ _ => rfl⟩, fun stage hmem => ?_⟩
  obtain ⟨hmoot, hmissing⟩ := hanswers stage hmem
  exact ⟨fun _ _ => ⟨_, rfl, hmoot⟩, fun wait hwait _ _ =>
    ⟨_, rfl, (Option.all_eq_true _ _).1 hmissing wait hwait⟩⟩

theorem uninstall_of_isGone_of_bare :
    ∃ record s', ((bare (.ofSecs 300)).uninstall "run").Yields { memory := () } (.ok record) s' ∧
      record.verdict = .succeeded ∧ record.sequence.results.length = 3 ∧ s'.now = 49 := by
  obtain ⟨hin, hquiet, hgone⟩ := bare_isGone (.inl rfl)
  obtain ⟨hfits, -⟩ :=
    uninstall_of_isGone (bare (.ofSecs 300)) "run" { memory := () } rfl hin hquiet hgone
  obtain ⟨record, s', hyields, hverdict, -, hfound, hspends⟩ := hfits (by decide +kernel)
  refine ⟨record, s', hyields, hverdict, ?_, hspends.now_eq.trans (by decide +kernel)⟩
  exact hfound.length_eq.symm.trans (by decide +kernel)

/-- The deletions' timeout may be endless as far as the checks go, but the first wait for a deletion
then ends the run. -/
theorem uninstall_faults_of_endless_deletion :
    (bare endlessTimeout).tolerance = .standard ∧
      (bare endlessTimeout).LetIn ((bare endlessTimeout).plan.removal {}) { memory := () } ∧
      Session.Quiet (bare endlessTimeout).runner { memory := () } ∧
      (bare endlessTimeout).IsGone { memory := () } ∧
      ¬ ∃ record s',
        ((bare endlessTimeout).uninstall "run").Yields { memory := () } (.ok record) s' := by
  obtain ⟨hin, hquiet, hgone⟩ := bare_isGone (.inr rfl)
  refine ⟨rfl, hin, hquiet, hgone, ?_⟩
  rintro ⟨record, s', hyields⟩
  have hfault : (((bare endlessTimeout).uninstall "run").outcome { memory := () }).1.isOk =
      false := by decide +kernel
  rw [hyields] at hfault
  cases hfault

end Testbed

end MeshTestbed
