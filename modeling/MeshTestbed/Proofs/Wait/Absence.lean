import MeshTestbed.Proofs.Sequence.Absence

namespace MeshTestbed.Wait

variable {σ : Type} {wait : Wait} {runner : Runner σ} {query : Call} {started made n : Nat}
  {e : WaitEnding} {s s' : Session σ}

/-- A wait that is satisfied ends with the query whose answer meets its goal. -/
theorem Course.met (h : Course wait runner query started made s n e s') (hmet : e.isMet = true) :
    ∃ i o, n = made + (i + 1) ∧
      (runner.reply (runner.after s.memory (List.replicate i query)) query).1.result = .ok o ∧
      (wait.goal.judge o).satisfied = true := by
  induction h with
  | @satisfied made s o _ hanswer hsatisfied => exact ⟨0, o, rfl, hanswer, hsatisfied⟩
  | @again made n s s' e _ _ _ ih =>
    -- The queries of the rest follow the one of this round.
    obtain ⟨i, o, hn, hanswer, hsatisfied⟩ := ih hmet
    rw [Session.memory_sleep, Session.memory_call] at hanswer
    exact ⟨i + 1, o, by omega, hanswer, hsatisfied⟩
  | cancelled | failed | timedOut | interrupted => cases hmet

/-- A wait for absence is satisfied only if its last answer says that nothing is there. -/
theorem absence_vouched_for (wait : Wait) (runner : Runner σ) (tool : ClusterTool)
    (s s' : Session σ) (count : UInt32) (ms : UInt64) (hgoal : wait.goal = .absent)
    (h : (wait.run runner tool).Yields s (.satisfied count ms) s') :
    ∃ i o, count.toNat = i + 1 ∧
      s'.calls = s.calls ++ List.replicate (i + 1) (wait.query tool) ∧
      (runner.reply (runner.after s.memory (List.replicate i (wait.query tool)))
        (wait.query tool)).1.result = .ok o ∧
      (o.isOk = true → o.listsNothing = true ∨ Text.contains o.stderr Goal.nothingFound = true) ∧
      (o.isOk = false → o.saysGone = true) := by
  obtain ⟨-, n, hcounted, hcourse⟩ := yields_run_iff.1 h
  obtain ⟨i, o, hn, hanswer, hsatisfied⟩ := hcourse.met rfl
  obtain rfl : n = i + 1 := by omega
  have hcount : count = .ofNat (i + 1) := hcourse.queries_eq
  rw [hgoal] at hsatisfied
  refine ⟨i, o, ?_, by simpa using hcourse.issued.calls_eq, hanswer, fun hok => ?_,
    fun hfailed => ?_⟩
  · rw [hcount]
    exact UInt32.toNat_ofNat_of_lt' hcounted
  · rwa [Goal.judge_absent_of_isOk hok, Bool.or_eq_true] at hsatisfied
  · rwa [Goal.judge_absent_of_failed hfailed] at hsatisfied

def meshGone : Wait := absent (.manifest "mesh.yaml") (some "istio-system")

def allGone : Completion := { stderr := "Error from server (NotFound)", exitCode := some 1 }

def vanishing : Session (List Reply) :=
  { memory := [{ result := .ok { stdout := "basic Ready\ndefault Ready" } },
      { result := .ok allGone }] }

theorem absence_vouched_for_of_allGone :
    meshGone.goal = .absent ∧
    ∃ s', (meshGone.run (.ofReplies { result := .ok allGone }) {}).Yields vanishing
        (.satisfied 2 5000) s' ∧
      s'.calls = List.replicate 2 (meshGone.query {}) ∧ allGone.saysGone = true := by
  have hended : ((meshGone.run (.ofReplies { result := .ok allGone }) {}).outcome
      vanishing).1.toOption.map id = some (.satisfied 2 5000) := by decide +kernel
  obtain ⟨_, s', hrun, rfl⟩ := RunM.exists_yields_of_map hended
  obtain ⟨i, o, hcount, hcalls, hanswer, -, hgone⟩ :=
    absence_vouched_for meshGone _ {} vanishing s' 2 5000 rfl hrun
  obtain rfl : i = 1 := by
    have htwo : (2 : UInt32).toNat = 2 := rfl
    omega
  obtain rfl : allGone = o := by
    simpa [Runner.after, Runner.ofReplies, vanishing, Reply.sleptFor] using hanswer
  exact ⟨rfl, s', hrun, hcalls, hgone (by decide)⟩

def halfGone : Completion := { allGone with stdout := "basic Terminating" }

def ambiguous : Completion :=
  { stdout := "basic Terminating", stderr := "No resources found in istio-system namespace." }

/-- A wait for absence is satisfied by its first answer, though that lists a resource. -/
theorem absence_claimed_of_listed :
    (halfGone.listsNothing = false ∧
      ∃ s', (meshGone.run (.ofReplies { result := .ok halfGone }) {}).Yields { memory := [] }
        (.satisfied 1 0) s') ∧
    ambiguous.listsNothing = false ∧
      ∃ s', (meshGone.run (.ofReplies { result := .ok ambiguous }) {}).Yields { memory := [] }
        (.satisfied 1 0) s' := by
  have hended : ∀ o ∈ [halfGone, ambiguous],
      ((meshGone.run (.ofReplies { result := .ok o }) {}).outcome
        { memory := [] }).1.toOption.map id = some (.satisfied 1 0) := by decide +kernel
  have hyields : ∀ o ∈ [halfGone, ambiguous],
      ∃ s', (meshGone.run (.ofReplies { result := .ok o }) {}).Yields { memory := [] }
        (.satisfied 1 0) s' := by
    intro o ho
    obtain ⟨_, s', hrun, rfl⟩ := RunM.exists_yields_of_map (hended o ho)
    exact ⟨s', hrun⟩
  exact ⟨⟨by decide, hyields halfGone (by simp)⟩, by decide, hyields ambiguous (by simp)⟩

end MeshTestbed.Wait
