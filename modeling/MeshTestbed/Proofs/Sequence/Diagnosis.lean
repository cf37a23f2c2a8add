import MeshTestbed.Proofs.Sequence.Report

namespace MeshTestbed

namespace Diagnosis

theorem render_eq_iff (d : Diagnosis) :
    d.render = { d with exitCode := none }.render ↔ d.exitCode = none := by
  rcases hcode : d.exitCode with _ | code
  · simp [render, hcode]
  · -- The code makes the text longer, whatever else is in it.
    have hlonger : { d with exitCode := none }.render.length < d.render.length := by
      have hmark : " (exit ".length = 7 := by decide
      simp only [render, hcode, String.length_append, hmark, String.length_empty]
      omega
    constructor
    · intro hsame
      rw [← hsame] at hlonger
      exact absurd hlonger (Nat.lt_irrefl _)
    · intro hnone
      cases hnone

end Diagnosis

namespace Conductor

variable {σ : Type} {seq : Conductor σ} {stage : Stage} {r : StageRecord} {s s' t : Session σ}
  {code : Int32}

/-- The exit code of a failed stage is not zero just if its command was rejected. -/
theorem Settled.code_ne_zero_iff (h : Settled seq stage s r t) (hfailed : r.status = .failed)
    (hcode : r.exitCode = some code) :
    code ≠ 0 ↔ r.FailedBy stage.onTimeout .rejected ∨ r.tolerated.isSome = true := by
  have hanswered : (seq.answered stage s).Consistent stage.onTimeout := consistent_answered
  cases h with
  | unawaited =>
    -- Without a wait it is the command that failed.
    simp only [StageRecord.Consistent, hfailed] at hanswered
    obtain ⟨mode, hmode, -⟩ := hanswered
    cases mode with
    | notRun => simp [hmode.1] at hcode
    | rejected =>
      have hnonzero : code ≠ 0 := by
        rintro rfl
        exact hmode.1 hcode
      exact ⟨fun _ => .inl hmode, fun _ => hnonzero⟩
    | overran =>
      obtain ⟨-, n, ms, seen, hwaited⟩ := hmode
      simp [waited_answered] at hwaited
    | queryFailed =>
      obtain ⟨n, error, hwaited⟩ := hmode
      simp [waited_answered] at hwaited
  | @awaited wait outcome _ _ hok =>
    -- The command went well or was tolerated, and the code is still that of the command.
    obtain ⟨hexit, htolerated⟩ :
        ((seq.answered stage s).afterWait stage.onTimeout outcome).exitCode =
          (seq.answered stage s).exitCode ∧ _ := command_afterWait
    have hwaited : ¬ ((seq.answered stage s).afterWait stage.onTimeout outcome).FailedBy
        stage.onTimeout .rejected := by
      rintro ⟨-, -, hnone, -⟩
      simp [waited_afterWait] at hnone
    rw [hexit] at hcode
    rw [htolerated]
    rcases status_answered seq stage s with hstatus | hstatus | hstatus <;>
      simp only [StageRecord.Consistent, hstatus] at hanswered
    · obtain ⟨hzero, -, hnone, -⟩ := hanswered
      have hcode : code = 0 := by simpa [hzero, eq_comm] using hcode
      simp [hcode, hnone, hwaited]
    · obtain ⟨hnonzero, hlabel, -⟩ := hanswered
      have hcode : code ≠ 0 := by
        rintro rfl
        exact hnonzero hcode
      simp [hcode, hlabel]
    · simp [hstatus, Status.isOk] at hok

/-- The diagnosis of a failed stage, which is also the reason why its sequence stops, has an exit
code just if the command was rejected with one: either that was the failure, or it was tolerated. -/
theorem diagnosis_blames_iff (seq : Conductor σ) (stage : Stage) (s s' : Session σ)
    (r : StageRecord) (h : (seq.perform stage).Yields s r s') (hfailed : r.status = .failed) :
    ∃ d, r.diagnosis? = some d ∧ (stopReason r : RunM σ String).Yields s' d.render s' ∧
      (∀ code, d.exitCode = some code ↔ r.exitCode = some code ∧
        (r.FailedBy stage.onTimeout .rejected ∨ r.tolerated.isSome = true)) ∧
      (d.render = { d with exitCode := none }.render ↔ d.exitCode = none) := by
  obtain ⟨d, hd⟩ : ∃ d, r.diagnosis? = some d := by
    unfold StageRecord.diagnosis?
    rw [if_pos hfailed]
    exact ⟨_, rfl⟩
  have hexit : d.exitCode = r.exitCode.filter (· ≠ 0) := by
    unfold StageRecord.diagnosis? at hd
    rw [if_pos hfailed] at hd
    cases hd
    rfl
  refine ⟨d, hd, yields_stopReason.2 ⟨?_, rfl⟩, fun code => ?_, d.render_eq_iff⟩
  · rw [haltReason, hd]
    rfl
  · obtain ⟨r₀, t, hsettled, rfl, -⟩ := yields_perform_iff.1 h
    rw [hexit, Option.filter_eq_some_iff, decide_eq_true_iff]
    exact and_congr_right fun hcode => hsettled.code_ne_zero_iff hfailed hcode

def hastyDelete : Stage :=
  { name := "delete-control-plane"
    action := .deleteManifest (some "istio-system") (.file "control_plane.yaml")
    readiness := some <|
      (Wait.absent (.named "smcp" "basic") (some "istio-system")).paced (.ofSecs 5) (.ofSecs 5)
    onTimeout := .escalate }

def answeringDelete (o : Completion) : Session (List Reply) :=
  { memory := [{ result := .ok o }, { result := .ok { stdout := "basic Terminating" } }] }

theorem diagnosis_blames_iff_of_accepted :
    ∃ r s' d, (rehearsal.perform hastyDelete).Yields (answeringDelete {}) r s' ∧
      r.status = .failed ∧ r.diagnosis? = some d ∧ d.exitCode = none ∧
      d.render = { d with exitCode := none }.render := by
  have hrecord : ((rehearsal.perform hastyDelete).outcome (answeringDelete {})).1.toOption.map
      (fun r => (r.status, r.exitCode, r.tolerated)) = some (.failed, some 0, none) := by
    decide +kernel
  obtain ⟨r, s', hrun, hfields⟩ := RunM.exists_yields_of_map hrecord
  obtain ⟨hfailed, hzero, hlabel⟩ :
      r.status = .failed ∧ r.exitCode = some 0 ∧ r.tolerated = none := by simpa using hfields
  obtain ⟨d, hd, -, hcode, htext⟩ := diagnosis_blames_iff _ _ _ _ r hrun hfailed
  have hnone : d.exitCode = none := by
    refine Option.eq_none_iff_forall_ne_some.2 fun code hsome => ?_
    obtain ⟨-, hrejected | htolerated⟩ := (hcode code).1 hsome
    · exact hrejected.1 hzero
    · simp [hlabel] at htolerated
  exact ⟨r, s', d, hrun, hfailed, hd, hnone, htext.2 hnone⟩

def notThere : Completion := { stderr := "Error from server (NotFound)", exitCode := some 1 }

/-- A cluster says that there is nothing to delete, but goes on to list it. The delete is tolerated
and it is the wait that fails, and yet the text tells of the exit code of the delete. -/
theorem tolerated_delete_blamed :
    ∃ r s' d, (rehearsal.perform hastyDelete).Yields (answeringDelete notThere) r s' ∧
      r.status = .failed ∧ r.tolerated = some "resource-not-found" ∧
      ¬ r.FailedBy hastyDelete.onTimeout .rejected ∧ r.diagnosis? = some d ∧
      d.exitCode = some 1 ∧
      d.render = "stage 'delete-control-plane' failed running `oc delete -n istio-system -f " ++
        "control_plane.yaml` (exit 1): readiness wait timed out: not ready after 2 attempt(s), " ++
        "5000ms; last seen: basic Terminating" := by
  have hrecord : ((rehearsal.perform hastyDelete).outcome
      (answeringDelete notThere)).1.toOption.map
        (fun r => (r.status, r.tolerated, r.diagnosis?.map fun d => (d.exitCode, d.render))) =
      some (.failed, some "resource-not-found", some (some 1,
        "stage 'delete-control-plane' failed running `oc delete -n istio-system -f " ++
        "control_plane.yaml` (exit 1): readiness wait timed out: not ready after 2 attempt(s), " ++
        "5000ms; last seen: basic Terminating")) := by decide +kernel
  obtain ⟨r, s', hrun, hfields⟩ := RunM.exists_yields_of_map hrecord
  obtain ⟨hfailed, hlabel, hd⟩ : r.status = .failed ∧ r.tolerated = some "resource-not-found" ∧
      r.diagnosis?.map (fun d => (d.exitCode, d.render)) = some (some 1, _) := by
    simpa only [Prod.mk.injEq] using hfields
  obtain ⟨d, hd, hboth⟩ := Option.map_eq_some_iff.1 hd
  obtain ⟨hcode, htext⟩ := Prod.mk.inj hboth
  refine ⟨r, s', d, hrun, hfailed, hlabel, ?_, hd, hcode, htext⟩
  rintro ⟨-, hnone, -⟩
  simp [hlabel] at hnone

end Conductor

end MeshTestbed
