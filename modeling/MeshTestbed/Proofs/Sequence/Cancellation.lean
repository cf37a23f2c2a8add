import MeshTestbed.Proofs.Sequence.Course

/-!
A run cannot take back a command that it has handed over, but after its cancellation it can hold
back the others. There is one rule for every step of a run, so that a fault on the way makes no
difference.
-/

namespace MeshTestbed

variable {σ α β : Type}

namespace Session

variable {runner : Runner σ} {c : Call} {e : Event} {ms : Nat} {s s' s'' : Session σ}

/-- The run is to be cancelled at an instant that has not come yet. -/
def Expects (due : Nat) (s : Session σ) : Prop :=
  s.now < due ∧ ∃ reason, s.timer = some (due, reason)

/-- A cancellation that was to come has come, or is still to come at the same instant. -/
def AwaitsCancellation (s s' : Session σ) : Prop :=
  ∀ due, s.Expects due → s'.Expects due ∨ s'.cancelled.isSome = true

namespace AwaitsCancellation

theorem refl : s.AwaitsCancellation s := fun _ h => .inl h

theorem moveTo {t : Nat} : s.AwaitsCancellation (s.moveTo t) := by
  rintro due ⟨-, reason, htimer⟩
  by_cases hdue : due ≤ t
  · right
    rw [moveTo_of_due htimer hdue]
    simp [Session.cancel]
  · left
    have hlater : s.moveTo t = { s with now := t } := by simp [Session.moveTo, htimer, hdue]
    rw [hlater]
    exact ⟨Nat.lt_of_not_le hdue, reason, htimer⟩

theorem advance : s.AwaitsCancellation (s.advance ms) := by
  unfold Session.advance
  split
  · exact .refl
  · exact moveTo

theorem call : s.AwaitsCancellation (s.call runner c).2 := by
  intro due hdue
  simp only [Session.call]
  split
  · exact advance due hdue
  · right
    simp [Session.cancel]

theorem sleep : s.AwaitsCancellation (s.sleep runner ms).2 := by
  unfold Session.sleep
  dsimp only
  split
  · exact .refl
  · split
    · exact moveTo
    · split <;> exact moveTo
  · exact moveTo

end AwaitsCancellation

/-- Between the sessions the one list of commands was handed over before the run was cancelled and
the other after that, the latest first. -/
structure Handed (before after : List LoggedCall) (s s' : Session σ) : Prop where
  log_eq : s'.log = after ++ before ++ s.log
  unmarked : ∀ c ∈ before, c.cancelled = false
  marked : ∀ c ∈ after, c.cancelled = true
  /-- If the instant of the cancellation is known from the start, these were all before it. -/
  punctual : ∀ due, s.Expects due → ∀ c ∈ before, c.startedAt < due
  /-- A run that is cancelled from the start has no other commands. -/
  late : s.cancelled.isSome = true → before = []
  known : after ≠ [] → s'.cancelled.isSome = true
  keeps : s.KeepsCancellation s'
  awaits : s.AwaitsCancellation s'

namespace Handed

variable {b b' a a' : List LoggedCall}

theorem none (hlog : s'.log = s.log) (hkeeps : s.KeepsCancellation s')
    (hawaits : s.AwaitsCancellation s') : Handed [] [] s s' where
  log_eq := hlog
  unmarked := by simp
  marked := by simp
  punctual := by simp
  late := fun _ => rfl
  known := fun h => absurd rfl h
  keeps := hkeeps
  awaits := hawaits

theorem call_before (huncancelled : s.cancelled = .none) :
    Handed [⟨c, s.now, false⟩] [] s (s.call runner c).2 where
  log_eq := by simp [huncancelled]
  unmarked := by simp
  marked := by simp
  punctual := fun due hdue => by simpa using hdue.1
  late := by simp [huncancelled]
  known := fun h => absurd rfl h
  keeps := .call
  awaits := .call

theorem call_after {reason : String} (hcancelled : s.cancelled = some reason) :
    Handed [] [⟨c, s.now, true⟩] s (s.call runner c).2 where
  log_eq := by simp [hcancelled]
  unmarked := by simp
  marked := by simp
  punctual := by simp
  late := fun _ => rfl
  known := fun _ => by simp [KeepsCancellation.call reason hcancelled]
  keeps := .call
  awaits := .call

theorem isSome (h : Handed b a s s') (hcancelled : s.cancelled.isSome = true) :
    s'.cancelled.isSome = true := by
  obtain ⟨reason, hreason⟩ := Option.isSome_iff_exists.1 hcancelled
  rw [h.keeps reason hreason]
  rfl

theorem trans (h : Handed b a s s') (h' : Handed b' a' s' s'') :
    Handed (b' ++ b) (a' ++ a) s s'' where
  log_eq := by
    -- A run that has gone on after its cancellation has nothing more to hand over before it.
    have hswap : b' ++ a = a ++ b' := by
      rcases a.eq_nil_or_concat with rfl | ⟨_, _, rfl⟩
      · simp
      · simp [h'.late (h.known (by simp))]
    rw [h'.log_eq, h.log_eq]
    simp only [List.append_assoc]
    rw [← List.append_assoc b' a, hswap, List.append_assoc]
  unmarked c hc := (List.mem_append.1 hc).elim (h'.unmarked c) (h.unmarked c)
  marked c hc := (List.mem_append.1 hc).elim (h'.marked c) (h.marked c)
  punctual due hdue c hc := by
    rcases List.mem_append.1 hc with hlater | hc
    · rcases h.awaits due hdue with hdue' | hcancelled
      · exact h'.punctual due hdue' c hlater
      · simp [h'.late hcancelled] at hlater
    · exact h.punctual due hdue c hc
  late hcancelled := by rw [h.late hcancelled, h'.late (h.isSome hcancelled)]; rfl
  known hne := by
    rcases a' with _ | ⟨c, a'⟩
    · exact h'.isSome (h.known (by simpa using hne))
    · exact h'.known (by simp)
  keeps := h.keeps.trans h'.keeps
  awaits due hdue := by
    rcases h.awaits due hdue with hdue' | hcancelled
    · exact h'.awaits due hdue'
    · exact .inr (h'.isSome hcancelled)

end Handed

/-- Between the sessions only commands of the one kind were handed over before the run was
cancelled, and only commands of the other kind after that. -/
def Heeds (early late : Call → Prop) (s s' : Session σ) : Prop :=
  ∃ before after, Handed before after s s' ∧
    (∀ c ∈ before, early c.call) ∧ ∀ c ∈ after, late c.call

namespace Heeds

variable {early late : Call → Prop}

theorem of_log_eq (hlog : s'.log = s.log) (hkeeps : s.KeepsCancellation s')
    (hawaits : s.AwaitsCancellation s') : Heeds early late s s' :=
  ⟨[], [], .none hlog hkeeps hawaits, by simp, by simp⟩

theorem refl : Heeds early late s s := .of_log_eq rfl .refl .refl

theorem trans (h : Heeds early late s s') (h' : Heeds early late s' s'') :
    Heeds early late s s'' := by
  obtain ⟨b, a, hhanded, hb, ha⟩ := h
  obtain ⟨b', a', hhanded', hb', ha'⟩ := h'
  exact ⟨_, _, hhanded.trans hhanded',
    fun c hc => (List.mem_append.1 hc).elim (hb' c) (hb c),
    fun c hc => (List.mem_append.1 hc).elim (ha' c) (ha c)⟩

theorem told : Heeds early late s (s.told e) := .of_log_eq log_told .refl .refl

theorem sleep : Heeds early late s (s.sleep runner ms).2 := .of_log_eq log_sleep .sleep .sleep

theorem call (huncancelled : s.cancelled = none) (hc : early c) :
    Heeds early late s (s.call runner c).2 :=
  ⟨_, _, .call_before huncancelled, by simpa using hc, by simp⟩

theorem call_anyway (hearly : early c) (hlate : late c) :
    Heeds early late s (s.call runner c).2 := by
  rcases hcancelled : s.cancelled with _ | reason
  · exact call hcancelled hearly
  · exact ⟨_, _, .call_after hcancelled, by simp, by simpa using hlate⟩

theorem bind {m : RunM σ α} {f : α → RunM σ β} (hm : Heeds early late s (m.outcome s).2)
    (hf : ∀ a t, m.Yields s a t → Heeds early late t ((f a).outcome t).2) :
    Heeds early late s (RunM.outcome (m >>= f) s).2 := by
  rw [RunM.outcome_bind]
  rcases hanswer : m.outcome s with ⟨e | a, t⟩
  · rwa [hanswer] at hm
  · rw [hanswer] at hm
    exact hm.trans (hf a t hanswer)

theorem mapM {f : α → RunM σ β} {xs : List α}
    (hf : ∀ x ∈ xs, ∀ s, Heeds early late s ((f x).outcome s).2) :
    Heeds early late s (RunM.outcome (xs.mapM f) s).2 := by
  induction xs generalizing s with
  | nil =>
    rw [List.mapM_nil]
    exact refl
  | cons x xs ih =>
    rw [List.mapM_cons]
    refine bind (hf x (List.mem_cons_self ..) s) fun _ t _ => bind ?_ fun _ _ _ => refl
    exact ih fun y hy => hf y (List.mem_cons_of_mem _ hy)

end Heeds

end Session

open Session (Heeds)

variable {early late : Call → Prop} {s : Session σ}

theorem Wait.heeds_resume {wait : Wait} {runner : Runner σ} {query : Call}
    {started left made : Nat} (hquery : early query) :
    Heeds early late s ((wait.resume runner query started left made).outcome s).2 := by
  -- On the queries left. The sleep between two of them may bring the cancellation, or a query may.
  induction left generalizing made s with
  | zero =>
    rw [resume, RunM.outcome_cancelled_bind]
    split <;> exact .refl
  | succ left ih =>
    rw [resume, RunM.outcome_cancelled_bind]
    split
    · exact .refl
    next huncancelled =>
    refine .bind (.call huncancelled hquery) fun answer t _ => ?_
    split
    · exact .refl
    refine .bind .refl fun t _ _ => ?_
    split
    · exact .refl
    dsimp only
    split
    · exact .refl
    refine .bind .sleep fun slept t _ => ?_
    split
    · exact .refl
    · exact ih

theorem Wait.heeds_run {wait : Wait} {runner : Runner σ} {tool : ClusterTool}
    (hquery : early (wait.query tool)) :
    Heeds early late s ((wait.run runner tool).outcome s).2 := by
  rw [run, RunM.outcome_get_bind]
  split
  · exact heeds_resume hquery
  · exact .refl

namespace Conductor

variable {seq : Conductor σ} {stage : Stage} {stages : List Stage}

/-- The command of a stage and the query of its wait. -/
def commandsIn (seq : Conductor σ) (stage : Stage) : List Call :=
  stage.action.call seq.tool :: stage.readiness.toList.map fun wait => wait.query seq.tool

theorem heeds_settle {r : StageRecord} (hearly : ∀ c ∈ seq.commandsIn stage, early c) :
    Heeds early late s ((seq.settle stage r).outcome s).2 := by
  unfold settle
  split
  · next wait hwait =>
    split
    · have hquery : early (wait.query seq.tool) := hearly _ (by simp [commandsIn, hwait])
      exact .bind (Wait.heeds_run hquery) fun _ _ _ => .told
    · exact .refl
  · exact .refl

theorem heeds_perform (huncancelled : s.cancelled = none)
    (hearly : ∀ c ∈ seq.commandsIn stage, early c) :
    Heeds early late s ((seq.perform stage).outcome s).2 := by
  rw [outcome_perform]
  have hcommand : early (stage.action.call seq.tool) := hearly _ (List.mem_cons_self ..)
  have hissued : Heeds early late s (seq.issued stage s) :=
    Heeds.told.trans (.call huncancelled hcommand)
  exact hissued.trans (.bind (heeds_settle hearly) fun _ _ _ => .told)

theorem heeds_runStages (hearly : ∀ stage ∈ stages, ∀ c ∈ seq.commandsIn stage, early c) :
    Heeds early late s ((seq.runStages stages).outcome s).2 := by
  induction stages generalizing s with
  | nil => exact .refl
  | cons stage rest ih =>
    rw [runStages, RunM.outcome_cancelled_bind]
    split
    · exact .refl
    next huncancelled =>
    refine .bind (heeds_perform huncancelled (hearly stage (List.mem_cons_self ..))) ?_
    intro r t _
    split
    · unfold stopReason
      split <;> exact .refl
    · exact .bind (ih fun stage hstage => hearly stage (List.mem_cons_of_mem _ hstage))
        fun _ _ _ => .refl

theorem heeds_run {direction : Direction}
    (hearly : ∀ stage ∈ stages, ∀ c ∈ seq.commandsIn stage, early c) :
    Heeds early late s ((seq.run direction stages).outcome s).2 :=
  .bind (heeds_runStages hearly) fun _ _ _ => .refl

end Conductor

end MeshTestbed
