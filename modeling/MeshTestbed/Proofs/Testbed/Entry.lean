import MeshTestbed.Proofs.Sequence.Composition
import MeshTestbed.Proofs.Sequence.Faults
import MeshTestbed.Proofs.Stage.Validation
import MeshTestbed.Proofs.Testbed.Install

/-!
The checks at entry are the only ones that can refuse a run. `TurnedAway` tells which of them did,
with what error, and what had been handed over by then.
-/

namespace MeshTestbed

variable {σ α β : Type}

/-- Wherever the run starts, it faults only in this way. -/
def RunM.OnlyFaults (P : Fault → Session σ → Prop) (m : RunM σ α) : Prop :=
  ∀ s f s', m.outcome s = (.error f, s') → P f s'

namespace RunM.OnlyFaults

variable {P : Fault → Session σ → Prop}

theorem of_answers {m : RunM σ α} (h : ∀ s, ∃ a s', m.Yields s a s') : OnlyFaults P m := by
  intro s f s' hfault
  obtain ⟨a, t, hyields⟩ := h s
  cases hyields.symm.trans hfault

theorem pure {a : α} : OnlyFaults P (pure a : RunM σ α) := of_answers fun s => ⟨a, s, rfl⟩

theorem call {runner : Runner σ} {c : Call} : OnlyFaults P (RunM.call runner c) :=
  of_answers fun _ => ⟨_, _, rfl⟩

theorem cancelled : OnlyFaults P (RunM.cancelled : RunM σ (Option String)) :=
  of_answers fun _ => ⟨_, _, rfl⟩

theorem bind {m : RunM σ α} {f : α → RunM σ β} (hm : OnlyFaults P m)
    (hf : ∀ a, OnlyFaults P (f a)) : OnlyFaults P (m >>= f) := by
  intro s e s' hfault
  rw [outcome_bind] at hfault
  rcases hanswer : m.outcome s with ⟨e' | a, t⟩
  · rw [hanswer] at hfault
    cases hfault
    exact hm s e s' hanswer
  · rw [hanswer] at hfault
    exact hf a t e s' hfault

theorem yields_or_fault {m : RunM σ α} (h : OnlyFaults P m) (s : Session σ) :
    (∃ a s', m.Yields s a s') ∨ ∃ f s', m.outcome s = (.error f, s') ∧ P f s' := by
  rcases hanswer : m.outcome s with ⟨f | a, s'⟩
  · exact .inr ⟨f, s', rfl, h s f s' hanswer⟩
  · exact .inl ⟨a, s', hanswer⟩

theorem mapM {f : α → RunM σ β} {xs : List α} (hf : ∀ x, OnlyFaults P (f x)) :
    OnlyFaults P (xs.mapM f) := by
  induction xs with
  | nil =>
    rw [List.mapM_nil]
    exact pure
  | cons x xs ih =>
    rw [List.mapM_cons]
    exact (hf x).bind fun _ => ih.bind fun _ => pure

end RunM.OnlyFaults

open RunM (OnlyFaults)

namespace Conductor

variable {seq : Conductor σ} {stage : Stage} {stages : List Stage} {f : Fault} {s s' : Session σ}

theorem overflows_of_fault (hvalid : ∀ wait, stage.readiness = some wait → wait.fault? = none)
    (h : (seq.perform stage).outcome s = (.error f, s')) : seq.Overflows stage s f := by
  by_contra hfits
  by_cases hoverflows : ∃ g, seq.Overflows stage s g
  · obtain ⟨g, hg⟩ := hoverflows
    have hfault := fault_perform hg hvalid
    rw [h] at hfault
    cases hfault
    exact hfits hg
  · obtain ⟨r, t, hyields⟩ := yields_perform_of_not_overflows (not_exists.1 hoverflows) hvalid
    cases hyields.symm.trans h

/-- The run has come to a stage of the list whose wait overflows, and ends there. -/
def EndsAt (seq : Conductor σ) (stages : List Stage) (f : Fault) (s' : Session σ) : Prop :=
  ∃ stage ∈ stages, ∃ s, seq.Overflows stage s f ∧
    (seq.perform stage).outcome s = (.error f, s')

theorem onlyFaults_runStages {xs : List Stage} (hxs : ∀ stage ∈ xs, stage ∈ stages)
    (hvalid : ∀ stage ∈ stages, ∀ wait, stage.readiness = some wait → wait.fault? = none) :
    OnlyFaults (seq.EndsAt stages) (seq.runStages xs) := by
  induction xs with
  | nil => exact .pure
  | cons stage rest ih =>
    have hmem : stage ∈ stages := hxs stage (List.mem_cons_self ..)
    have hrest := ih fun stage hstage => hxs stage (List.mem_cons_of_mem _ hstage)
    have hperform : OnlyFaults (seq.EndsAt stages) (seq.perform stage) := fun s f s' hfault =>
      ⟨stage, hmem, s, overflows_of_fault (hvalid stage hmem) hfault, hfault⟩
    have hreason : ∀ r, OnlyFaults (seq.EndsAt stages) (stopReason r) := by
      intro r
      apply OnlyFaults.of_answers
      intro s
      exact ⟨_, _, yields_stopReason.2 ⟨rfl, rfl⟩⟩
    rw [runStages]
    refine .bind .cancelled ?_
    intro cancelled
    split
    · exact .pure
    · apply hperform.bind
      intro r
      split
      · exact (hreason r).bind fun _ => .pure
      · exact hrest.bind fun _ => .pure

theorem onlyFaults_run {direction : Direction} {xs : List Stage}
    (hxs : ∀ stage ∈ xs, stage ∈ stages)
    (hvalid : ∀ stage ∈ stages, ∀ wait, stage.readiness = some wait → wait.fault? = none) :
    OnlyFaults (seq.EndsAt stages) (seq.run direction xs) :=
  (onlyFaults_runStages hxs hvalid).bind fun _ => .pure

end Conductor

namespace Testbed

variable {t : Testbed σ} {stages : List Stage} {e : RunError} {s s' : Session σ}

structure LetIn (t : Testbed σ) (stages : List Stage) (s : Session σ) : Prop where
  plan : t.plan.fault? = none
  stages : Stage.checkAll stages = .ok ()
  session : t.HasSession s
  uncancelled : (s.call t.runner t.probe).2.cancelled = none

/-- The first check that fails, with its error and the session it leaves. -/
inductive TurnedAway (t : Testbed σ) (stages : List Stage) (s : Session σ) :
    RunError → Session σ → Prop where
  | plan {cause : Misconfiguration} (hplan : t.plan.fault? = some cause) :
    TurnedAway t stages s (.config cause) s
  | stages {e : RunError} (hplan : t.plan.fault? = none)
    (hstages : Stage.checkAll stages = .error e) : TurnedAway t stages s e s
  | noTool {cause : CommandFailure} (hplan : t.plan.fault? = none)
    (hstages : Stage.checkAll stages = .ok ())
    (hprobe : (s.call t.runner t.probe).1 = .error cause) :
    TurnedAway t stages s
      (.missingPrerequisite ("cluster tool `" ++ t.tool.program ++ "`") cause.message)
      (s.call t.runner t.probe).2
  | noSession {o : Completion} (hplan : t.plan.fault? = none)
    (hstages : Stage.checkAll stages = .ok ()) (hprobe : (s.call t.runner t.probe).1 = .ok o)
    (hfailed : o.isOk = false) :
    TurnedAway t stages s (.missingPrerequisite "cluster session" (Text.trimmed o.stderr))
      (s.call t.runner t.probe).2
  | cancelled {reason : String} (hplan : t.plan.fault? = none)
    (hstages : Stage.checkAll stages = .ok ()) (hsession : t.HasSession s)
    (hcancelled : (s.call t.runner t.probe).2.cancelled = some reason) :
    TurnedAway t stages s (.cancelled reason) (s.call t.runner t.probe).2

theorem letIn_or_turnedAway (t : Testbed σ) (stages : List Stage) (s : Session σ) :
    t.LetIn stages s ∨ ∃ e s', t.TurnedAway stages s e s' := by
  rcases hplan : t.plan.fault? with _ | cause
  · rcases hstages : Stage.checkAll stages with e | ⟨⟩
    · exact .inr ⟨_, _, .stages hplan hstages⟩
    rcases hprobe : (s.call t.runner t.probe).1 with cause | o
    · exact .inr ⟨_, _, .noTool hplan hstages hprobe⟩
    by_cases hok : o.isOk = true
    · have hsession : t.HasSession s := ⟨o, hprobe, hok⟩
      rcases hcancelled : (s.call t.runner t.probe).2.cancelled with _ | reason
      · exact .inl ⟨hplan, hstages, hsession, hcancelled⟩
      · exact .inr ⟨_, _, .cancelled hplan hstages hsession hcancelled⟩
    · exact .inr ⟨_, _, .noSession hplan hstages hprobe (Bool.eq_false_iff.2 hok)⟩
  · exact .inr ⟨_, _, .plan hplan⟩

theorem yields_checkSession_of_noTool {cause : CommandFailure}
    (hprobe : (s.call t.runner t.probe).1 = .error cause) :
    t.checkSession.Yields s
      (.error (.missingPrerequisite ("cluster tool `" ++ t.tool.program ++ "`") cause.message))
      (s.call t.runner t.probe).2 := by
  rw [checkSession, RunM.yields_call_bind, hprobe]
  exact RunM.yields_pure.2 ⟨rfl, rfl⟩

theorem yields_checkSession_of_noSession {o : Completion}
    (hprobe : (s.call t.runner t.probe).1 = .ok o) (hfailed : o.isOk = false) :
    t.checkSession.Yields s
      (.error (.missingPrerequisite "cluster session" (Text.trimmed o.stderr)))
      (s.call t.runner t.probe).2 := by
  rw [checkSession, RunM.yields_call_bind, hprobe]
  dsimp only
  rw [if_neg (by simp [hfailed])]
  exact RunM.yields_pure.2 ⟨rfl, rfl⟩

theorem TurnedAway.yields_enter (h : t.TurnedAway stages s e s') :
    (t.enter stages).Yields s (.error e) s' := by
  unfold enter
  cases h with
  | plan hplan =>
    rw [hplan]
    exact RunM.yields_pure.2 ⟨rfl, rfl⟩
  | stages hplan hstages =>
    rw [hplan, hstages]
    exact RunM.yields_pure.2 ⟨rfl, rfl⟩
  | noTool hplan hstages hprobe =>
    rw [hplan, hstages]
    exact RunM.yields_bind.2
      ⟨_, _, yields_checkSession_of_noTool hprobe, RunM.yields_pure.2 ⟨rfl, rfl⟩⟩
  | noSession hplan hstages hprobe hfailed =>
    rw [hplan, hstages]
    exact RunM.yields_bind.2
      ⟨_, _, yields_checkSession_of_noSession hprobe hfailed, RunM.yields_pure.2 ⟨rfl, rfl⟩⟩
  | cancelled hplan hstages hsession hcancelled =>
    obtain ⟨checked, hchecked, hok⟩ := exists_yields_checkSession (t := t) (s := s)
    rw [hok hsession] at hchecked
    rw [hplan, hstages]
    refine RunM.yields_bind.2 ⟨_, _, hchecked, ?_⟩
    dsimp only
    rw [RunM.yields_cancelled_bind, hcancelled]
    exact RunM.yields_pure.2 ⟨rfl, rfl⟩

theorem LetIn.yields_enter (h : t.LetIn stages s) :
    (t.enter stages).Yields s (.ok ()) (s.call t.runner t.probe).2 := by
  obtain ⟨checked, hchecked, hok⟩ := exists_yields_checkSession (t := t) (s := s)
  rw [hok h.session] at hchecked
  unfold enter
  rw [h.plan, h.stages]
  refine RunM.yields_bind.2 ⟨_, _, hchecked, ?_⟩
  dsimp only
  rw [RunM.yields_cancelled_bind, h.uncancelled]
  exact RunM.yields_pure.2 ⟨rfl, rfl⟩

theorem TurnedAway.events_eq (h : t.TurnedAway stages s e s') : s'.events = s.events := by
  cases h <;> simp

def entryCalls (t : Testbed σ) : RunError → Option (List Call)
  | .config _ | .malformedWait _ => some []
  | .missingPrerequisite _ _ | .cancelled _ => some [t.probe]
  | .command _ | .serialization _ | .io _ => none

theorem TurnedAway.calls_eq (h : t.TurnedAway stages s e s') :
    ∃ calls, t.entryCalls e = some calls ∧ s'.calls = s.calls ++ calls := by
  cases h with
  | plan => exact ⟨[], rfl, by simp⟩
  | stages _ hstages =>
    rcases Stage.checkAll_error hstages with ⟨cause, rfl⟩ | ⟨cause, rfl⟩
    · exact ⟨[], rfl, by simp⟩
    · exact ⟨[], rfl, by simp⟩
  | noTool | noSession | cancelled => exact ⟨[t.probe], rfl, by simp⟩

theorem onlyFaults_listImages {P : Fault → Session σ → Prop} {namespaces : List String} :
    OnlyFaults P (RunM.listImages t.runner t.tool namespaces) := by
  apply OnlyFaults.mapM
  intro ns
  refine .bind .call ?_
  intro answer
  split <;> exact .pure

theorem onlyFaults_auditPackages {P : Fault → Session σ → Prop} {images : NamespaceListing}
    {audit : PackageAudit} : OnlyFaults P (RunM.auditPackages t.runner t.tool images audit) := by
  apply OnlyFaults.mapM
  intro pod
  refine .bind .call ?_
  intro answer
  split <;> exact .pure

theorem onlyFaults_takeInventory {P : Fault → Session σ → Prop} {sequence : SequenceRecord} :
    OnlyFaults P (t.takeInventory sequence) := by
  unfold takeInventory
  split
  · exact .pure
  refine onlyFaults_listImages.bind ?_
  intro namespaces
  dsimp only
  split
  · exact onlyFaults_auditPackages.bind fun _ => .pure
  · exact OnlyFaults.pure.bind fun _ => .pure

theorem onlyFaults_installSequence
    (hchecked : Stage.checkAll (t.plan.installation t.tool) = .ok ()) :
    OnlyFaults (t.conductor.EndsAt (t.plan.installation t.tool)) t.installSequence := by
  have hcarried : ∀ xs, (∀ stage ∈ xs, stage ∈ t.plan.installation t.tool) →
      OnlyFaults (t.conductor.EndsAt (t.plan.installation t.tool)) (t.conductor.carryOut xs) := by
    intro xs hxs
    apply Conductor.onlyFaults_run hxs
    intro stage hmem wait
    exact Stage.waitFault_of_checkAll hchecked hmem
  have hlasting : ∀ stage ∈ t.plan.lasting t.tool, stage ∈ t.plan.installation t.tool :=
    fun stage hmem => List.mem_append_left _ hmem
  unfold installSequence
  apply (hcarried _ hlasting).bind
  intro sequence
  split
  · next verify teardown hpair =>
    split
    · have hverify : verify ∈ t.plan.installation t.tool := by simp [Plan.installation, hpair]
      have hteardown : teardown ∈ t.plan.installation t.tool := by
        simp [Plan.installation, hpair]
      apply (hcarried [verify] (by simpa using hverify)).bind
      intro verified
      refine onlyFaults_takeInventory.bind ?_
      intro images
      split
      · exact (hcarried [teardown] (by simpa using hteardown)).bind fun _ => .pure
      · exact .pure
    · exact onlyFaults_takeInventory.bind fun _ => .pure
  · exact onlyFaults_takeInventory.bind fun _ => .pure

theorem onlyFaults_uninstallSequence
    (hchecked : Stage.checkAll (t.plan.removal t.tool) = .ok ()) :
    OnlyFaults (t.conductor.EndsAt (t.plan.removal t.tool)) t.uninstallSequence := by
  have hvalid : ∀ stage ∈ t.plan.removal t.tool, ∀ wait, stage.readiness = some wait →
      wait.fault? = none := fun _ hmem _ => Stage.waitFault_of_checkAll hchecked hmem
  rw [uninstallSequence_eq]
  exact Conductor.onlyFaults_run (fun _ hmem => hmem) hvalid

/-- The checks at entry decide whether the run comes to an error, and to which. -/
structure Guards (t : Testbed σ) (stages : List Stage) (m : RunM σ (Except RunError α))
    (s : Session σ) : Prop where
  error_iff : ∀ e s', m.Yields s (.error e) s' ↔ t.TurnedAway stages s e s'
  exists_error_iff : (∃ e s', m.Yields s (.error e) s') ↔ ¬ t.LetIn stages s
  /-- A run that comes to an error has told nothing. -/
  events_eq : ∀ e s', m.Yields s (.error e) s' → s'.events = s.events
  /-- It has handed over the probe of the session at most. -/
  calls_eq : ∀ e s', m.Yields s (.error e) s' →
    ∃ calls, t.entryCalls e = some calls ∧ s'.calls = s.calls ++ calls
  /-- Any other run leaves its record, unless a wait overflows. -/
  letIn : t.LetIn stages s → (∃ record s', m.Yields s (.ok record) s') ∨
    ∃ f s', m.outcome s = (.error f, s') ∧ t.conductor.EndsAt stages f s'

theorem guards_of_entry {m : RunM σ (Except RunError α)}
    (hrefused : ∀ e s', t.TurnedAway stages s e s' → m.Yields s (.error e) s')
    (hletIn : t.LetIn stages s → (∃ record s', m.Yields s (.ok record) s') ∨
      ∃ f s', m.outcome s = (.error f, s') ∧ t.conductor.EndsAt stages f s') :
    Guards t stages m s := by
  have hletIn_noError : t.LetIn stages s → ∀ e s', ¬ m.Yields s (.error e) s' := by
    intro hin e s' herror
    rcases hletIn hin with ⟨record, u, hrecord⟩ | ⟨f, u, hfault, -⟩
    · cases (herror.unique hrecord).1
    · cases herror.symm.trans hfault
  have herror_iff : ∀ e s', m.Yields s (.error e) s' ↔ t.TurnedAway stages s e s' := by
    intro e s'
    refine ⟨fun herror => ?_, hrefused e s'⟩
    rcases letIn_or_turnedAway t stages s with hin | ⟨e', u, haway⟩
    · exact absurd herror (hletIn_noError hin e s')
    · obtain ⟨hsame, rfl⟩ := herror.unique (hrefused e' u haway)
      cases hsame
      exact haway
  exact
    { error_iff := herror_iff
      exists_error_iff := by
        constructor
        · rintro ⟨e, s', herror⟩ hin
          exact hletIn_noError hin e s' herror
        · intro hout
          obtain ⟨e, s', haway⟩ := (letIn_or_turnedAway t stages s).resolve_left hout
          exact ⟨e, s', hrefused e s' haway⟩
      events_eq := fun e s' herror => ((herror_iff e s').1 herror).events_eq
      calls_eq := fun e s' herror => ((herror_iff e s').1 herror).calls_eq
      letIn := hletIn }

theorem install_of_letIn {runId : String} (h : t.LetIn (t.plan.installation t.tool) s) :
    (∃ record s', (t.install runId).Yields s (.ok record) s') ∨
      ∃ f s', (t.install runId).outcome s = (.error f, s') ∧
        t.conductor.EndsAt (t.plan.installation t.tool) f s' := by
  let entered := (s.call t.runner t.probe).2
  have hsequence := (onlyFaults_installSequence h.stages).yields_or_fault
    (entered.told (.runStarted runId "install"))
  unfold install
  rcases hsequence with ⟨⟨sequence, images⟩, u, hyields⟩ | ⟨f, s', hfault, hends⟩
  · left
    let verdict := Verdict.ofSequence sequence
    let finished := u.told (.runFinished runId verdict.text)
    refine ⟨⟨runId, verdict, entered.stamp, finished.stamp, sequence, images⟩, finished, ?_⟩
    refine RunM.yields_bind.2 ⟨_, _, h.yields_enter, ?_⟩
    dsimp only
    rw [RunM.yields_stamp_bind, RunM.yields_tell_bind]
    refine RunM.yields_bind.2 ⟨_, _, hyields, ?_⟩
    rw [RunM.yields_tell_bind, RunM.yields_stamp_bind]
    exact RunM.yields_pure.2 ⟨rfl, rfl⟩
  · right
    refine ⟨f, s', ?_, hends⟩
    rw [RunM.outcome_bind_of_outcome h.yields_enter]
    dsimp only
    rw [RunM.outcome_stamp_bind, RunM.outcome_tell_bind, RunM.outcome_bind_of_fault hfault]

theorem LetIn.yields_uninstall {runId : String} {sequence : SequenceRecord}
    (h : t.LetIn (t.plan.removal t.tool) s)
    (hsequence : t.uninstallSequence.Yields
      ((s.call t.runner t.probe).2.told (.runStarted runId "uninstall")) sequence s') :
    ∃ record, (t.uninstall runId).Yields s (.ok record)
        (s'.told (.runFinished runId record.verdict.text)) ∧
      record.sequence = sequence ∧ record.verdict = Verdict.ofSequence sequence := by
  let entered := (s.call t.runner t.probe).2
  let verdict := Verdict.ofSequence sequence
  let finished := s'.told (.runFinished runId verdict.text)
  refine ⟨⟨runId, verdict, entered.stamp, finished.stamp, sequence⟩, ?_, rfl, rfl⟩
  unfold uninstall
  refine RunM.yields_bind.2 ⟨_, _, h.yields_enter, ?_⟩
  dsimp only
  rw [RunM.yields_stamp_bind, RunM.yields_tell_bind]
  refine RunM.yields_bind.2 ⟨_, _, hsequence, ?_⟩
  rw [RunM.yields_tell_bind, RunM.yields_stamp_bind]
  exact RunM.yields_pure.2 ⟨rfl, rfl⟩

theorem LetIn.fault_uninstall {runId : String} {f : Fault}
    (h : t.LetIn (t.plan.removal t.tool) s)
    (hfault : t.uninstallSequence.outcome
      ((s.call t.runner t.probe).2.told (.runStarted runId "uninstall")) = (.error f, s')) :
    (t.uninstall runId).outcome s = (.error f, s') := by
  unfold uninstall
  rw [RunM.outcome_bind_of_outcome h.yields_enter]
  dsimp only
  rw [RunM.outcome_stamp_bind, RunM.outcome_tell_bind, RunM.outcome_bind_of_fault hfault]

theorem uninstall_of_letIn {runId : String} (h : t.LetIn (t.plan.removal t.tool) s) :
    (∃ record s', (t.uninstall runId).Yields s (.ok record) s') ∨
      ∃ f s', (t.uninstall runId).outcome s = (.error f, s') ∧
        t.conductor.EndsAt (t.plan.removal t.tool) f s' := by
  have hsequence := (onlyFaults_uninstallSequence h.stages).yields_or_fault
    ((s.call t.runner t.probe).2.told (.runStarted runId "uninstall"))
  rcases hsequence with ⟨sequence, u, hyields⟩ | ⟨f, s', hfault, hends⟩
  · obtain ⟨record, hrecord, -⟩ := h.yields_uninstall hyields
    exact .inl ⟨record, _, hrecord⟩
  · exact .inr ⟨f, s', h.fault_uninstall hfault, hends⟩

theorem TurnedAway.yields_install {runId : String}
    (h : t.TurnedAway (t.plan.installation t.tool) s e s') :
    (t.install runId).Yields s (.error e) s' :=
  RunM.yields_bind.2 ⟨_, _, h.yields_enter, RunM.yields_pure.2 ⟨rfl, rfl⟩⟩

theorem TurnedAway.yields_uninstall {runId : String}
    (h : t.TurnedAway (t.plan.removal t.tool) s e s') :
    (t.uninstall runId).Yields s (.error e) s' :=
  RunM.yields_bind.2 ⟨_, _, h.yields_enter, RunM.yields_pure.2 ⟨rfl, rfl⟩⟩

/-- Whatever the plan, the runner and the cancellation: an error comes from the entry alone, and
nothing has been done by then but the probe. -/
theorem entry_guards_runs (t : Testbed σ) (runId : String) (s : Session σ) :
    Guards t (t.plan.installation t.tool) (t.install runId) s ∧
      Guards t (t.plan.removal t.tool) (t.uninstall runId) s :=
  ⟨guards_of_entry (fun _ _ => TurnedAway.yields_install) install_of_letIn,
    guards_of_entry (fun _ _ => TurnedAway.yields_uninstall) uninstall_of_letIn⟩

end Testbed

end MeshTestbed
