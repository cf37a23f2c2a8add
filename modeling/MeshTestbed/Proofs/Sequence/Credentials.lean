import Mathlib.Data.List.Forall2
import MeshTestbed.Proofs.Likeness
import MeshTestbed.Proofs.Sequence.Course

namespace MeshTestbed

variable {σ τ : Type} {alike : σ → τ → Prop} {tool tool' : ClusterTool} {earlier : List Call}
  {runner : Runner σ} {runner' : Runner τ}

/-- The tools are the same but for their credentials. -/
structure ClusterTool.Alike (tool tool' : ClusterTool) : Prop where
  program : tool.program = tool'.program
  flavor : tool.flavor = tool'.flavor

def Call.Alike (tool tool' : ClusterTool) (c c' : Call) : Prop :=
  ∃ request : ClusterRequest, c = request.call tool ∧ c' = request.call tool'

theorem Call.Alike.of_args (args : Argv) (input : Option String) :
    Call.Alike tool tool' ⟨tool.command args, input⟩ ⟨tool'.command args, input⟩ :=
  ⟨⟨args, input⟩, rfl, rfl⟩

theorem Wait.alike_query (wait : Wait) :
    Call.Alike tool tool' (wait.query tool) (wait.query tool') := by
  unfold query queryArgv queryArgv.pods ClusterTool.showNamed
  repeat' split
  all_goals exact .of_args _ _

theorem Action.alike_call (htools : tool.Alike tool') {action : Action}
    (h : ∀ argv, action ≠ .runExternalScript argv) :
    Call.Alike tool tool' (action.call tool) (action.call tool') := by
  unfold Action.call
  split
  · exact .of_args _ _
  · exact .of_args _ _
  · exact .of_args _ _
  · exact .of_args _ _
  · unfold ClusterTool.createNamespace
    rw [htools.flavor]
    split <;> exact .of_args _ _
  · unfold ClusterTool.deleteNamespace
    rw [htools.flavor]
    split <;> exact .of_args _ _
  · exact .of_args _ _
  · exact absurd rfl (h _)

/-- The same stage, or the same command of the tools spelled out by each. -/
inductive Stage.Alike (tool tool' : ClusterTool) : Stage → Stage → Prop where
  | same {stage : Stage} (h : ∀ argv, stage.action ≠ .runExternalScript argv) :
    Alike tool tool' stage stage
  | spelled (stage : Stage) (args : Argv) : Alike tool tool'
    { stage with action := .runExternalScript (tool.command args) }
    { stage with action := .runExternalScript (tool'.command args) }

namespace Stage.Alike

variable {stage stage' : Stage}

theorem name_eq (h : stage.Alike tool tool' stage') : stage.name = stage'.name := by
  cases h <;> rfl

theorem kind_eq (h : stage.Alike tool tool' stage') : stage.kind = stage'.kind := by
  cases h <;> rfl

theorem effect_eq (h : stage.Alike tool tool' stage') : stage.effect = stage'.effect := by
  cases h <;> rfl

theorem readiness_eq (h : stage.Alike tool tool' stage') : stage.readiness = stage'.readiness := by
  cases h <;> rfl

theorem onTimeout_eq (h : stage.Alike tool tool' stage') : stage.onTimeout = stage'.onTimeout := by
  cases h <;> rfl

theorem call (htools : tool.Alike tool') (h : stage.Alike tool tool' stage') :
    Call.Alike tool tool' (stage.action.call tool) (stage'.action.call tool') := by
  cases h with
  | same h => exact Action.alike_call htools h
  | spelled _ args => exact .of_args args none

theorem undo? (h : stage.Alike tool tool' stage') :
    Option.Rel (Stage.Alike tool tool') stage.undo? stage'.undo? := by
  cases h with
  | same =>
    rcases hundo : stage.undo? with _ | undoing
    · exact .none
    obtain ⟨action, haction, rfl⟩ := Option.map_eq_some_iff.1 hundo
    refine .some (.same ?_)
    rintro argv rfl
    unfold Action.undo? at haction
    split at haction <;> cases haction
  | spelled => exact .none

theorem undoing {stages stages' : List Stage}
    (h : List.Forall₂ (Stage.Alike tool tool') stages stages') :
    List.Forall₂ (Stage.Alike tool tool') (Conductor.undoing stages) (Conductor.undoing stages') :=
  List.rel_filterMap (fun _ _ halike => halike.undo?) (List.rel_reverse h)

end Stage.Alike

theorem RunM.Alike.call_of_alike {c c' : Call} (hrunner : runner.Alike alike tool tool' runner')
    (hcall : Call.Alike tool tool' c c') :
    RunM.Alike (Session.Alike alike tool tool' earlier) Eq (RunM.call runner c)
      (RunM.call runner' c') := by
  obtain ⟨request, rfl, rfl⟩ := hcall
  exact .call hrunner request

namespace Wait

variable (wait : Wait)

theorem alike_resume (hrunner : runner.Alike alike tool tool' runner')
    (started left queries : Nat) :
    RunM.Alike (Session.Alike alike tool tool' earlier) Eq
      (wait.resume runner (wait.query tool) started left queries)
      (wait.resume runner' (wait.query tool') started left queries) := by
  induction left generalizing queries with
  | zero =>
    unfold resume
    refine RunM.Alike.cancelled.bindEq ?_
    rintro (_ | reason)
    · exact .throw
    · exact .pure rfl
  | succ left ih =>
    unfold resume
    refine RunM.Alike.cancelled.bindEq ?_
    rintro (_ | reason)
    · refine (RunM.Alike.call_of_alike hrunner wait.alike_query).bindEq ?_
      rintro (e | output)
      · exact .pure rfl
      · refine RunM.Alike.get.bind fun s s' h => ?_
        dsimp only
        rw [h.now]
        split
        · exact .pure rfl
        split
        · exact .pure rfl
        refine (RunM.Alike.sleep hrunner wait.interval).bindEq ?_
        rintro (_ | reason)
        · exact ih _
        · exact .pure rfl
    · exact .pure rfl

theorem alike_run (hrunner : runner.Alike alike tool tool' runner') :
    RunM.Alike (Session.Alike alike tool tool' earlier) Eq (wait.run runner tool)
      (wait.run runner' tool') := by
  refine RunM.Alike.get.bind fun s s' h => ?_
  rw [h.canWait, h.now]
  split
  · exact wait.alike_resume hrunner _ _ _
  · exact .throw

end Wait

namespace StageRecord

variable {r r' : StageRecord} {stage stage' : Stage}

/-- The records differ in the text of the command, if at all. -/
def Alike (r r' : StageRecord) : Prop := r.withoutCommand = r'.withoutCommand

theorem withoutCommand_afterCommand {rules : Tolerances}
    {answer : Except CommandFailure Completion} :
    (r.afterCommand stage rules answer).withoutCommand =
      r.withoutCommand.afterCommand stage rules answer := by
  unfold afterCommand
  split
  · rfl
  · split <;> rfl

theorem withoutCommand_afterWait {policy : TimeoutResponse} {outcome : WaitEnding} :
    (r.afterWait policy outcome).withoutCommand = r.withoutCommand.afterWait policy outcome := by
  unfold afterWait
  rcases outcome with _ | _ | _ | _
  · rfl
  · cases policy <;> rfl
  · rfl
  · rfl

namespace Alike

theorem name_eq (h : r.Alike r') : r.name = r'.name := by
  have hname := congrArg name h
  exact hname

theorem status_eq (h : r.Alike r') : r.status = r'.status := by
  have hstatus := congrArg status h
  exact hstatus

theorem afterCommand {rules : Tolerances} {answer : Except CommandFailure Completion}
    (hstage : stage.Alike tool tool' stage') (h : r.Alike r') :
    (r.afterCommand stage rules answer).Alike (r'.afterCommand stage' rules answer) := by
  have hsame : r'.afterCommand stage rules answer = r'.afterCommand stage' rules answer := by
    unfold StageRecord.afterCommand
    rw [hstage.kind_eq, hstage.effect_eq]
  rw [Alike, ← hsame, withoutCommand_afterCommand, withoutCommand_afterCommand, h]

theorem afterWait {policy : TimeoutResponse} {outcome : WaitEnding} (h : r.Alike r') :
    (r.afterWait policy outcome).Alike (r'.afterWait policy outcome) := by
  rw [Alike, withoutCommand_afterWait, withoutCommand_afterWait, h]

theorem endedAt (endedAt : Stamp) (h : r.Alike r') :
    StageRecord.Alike { r with endedAt } { r' with endedAt } := by
  have hended := congrArg (fun r : StageRecord => { r with endedAt }) h
  exact hended

end Alike

end StageRecord

namespace Conductor

variable {rules : Tolerances} {stage stage' : Stage}

theorem alike_awaitReadiness (hrunner : runner.Alike alike tool tool' runner')
    (h : stage.Alike tool tool' stage') (wait : Wait) {r r' : StageRecord} (hr : r.Alike r') :
    RunM.Alike (Session.Alike alike tool tool' earlier) StageRecord.Alike
      (Conductor.awaitReadiness ⟨runner, tool, rules⟩ stage wait r)
      (Conductor.awaitReadiness ⟨runner', tool', rules⟩ stage' wait r') := by
  unfold awaitReadiness
  refine (wait.alike_run hrunner).bindEq fun outcome => ?_
  rw [h.name_eq, h.onTimeout_eq]
  exact (RunM.Alike.tell rfl).bindEq fun _ => .pure hr.afterWait

theorem alike_settle (hrunner : runner.Alike alike tool tool' runner')
    (h : stage.Alike tool tool' stage') {r r' : StageRecord} (hr : r.Alike r') :
    RunM.Alike (Session.Alike alike tool tool' earlier) StageRecord.Alike
      (settle ⟨runner, tool, rules⟩ stage r) (settle ⟨runner', tool', rules⟩ stage' r') := by
  unfold settle
  rw [h.readiness_eq, hr.status_eq]
  split
  · split
    · exact alike_awaitReadiness hrunner h _ hr
    · exact .pure hr
  · exact .pure hr

theorem alike_conclude {r r' : StageRecord} (hr : r.Alike r') :
    RunM.Alike (Session.Alike alike tool tool' earlier) StageRecord.Alike (conclude r)
      (conclude r') := by
  refine RunM.Alike.stamp.bindEq fun endedAt => ?_
  have htold : (Event.stageFinished { r with endedAt }).withoutCommand =
      (Event.stageFinished { r' with endedAt }).withoutCommand :=
    congrArg Event.stageFinished (hr.endedAt endedAt)
  exact (RunM.Alike.tell htold).bindEq fun _ => .pure (hr.endedAt endedAt)

theorem alike_perform (hrunner : runner.Alike alike tool tool' runner') (htools : tool.Alike tool')
    (h : stage.Alike tool tool' stage') :
    RunM.Alike (Session.Alike alike tool tool' earlier) StageRecord.Alike
      (perform ⟨runner, tool, rules⟩ stage) (perform ⟨runner', tool', rules⟩ stage') := by
  intro s s' hs
  have htold : (announced ⟨runner, tool, rules⟩ stage s).Alike alike tool tool' earlier
      (announced ⟨runner', tool', rules⟩ stage' s') :=
    hs.told (by simp [Event.withoutCommand, h.name_eq, h.kind_eq])
  obtain ⟨request, hcall, hcall'⟩ := h.call htools
  have hissued := htold.call hrunner request
  rw [← hcall, ← hcall'] at hissued
  have hbegun : StageRecord.Alike (begun ⟨runner, tool, rules⟩ stage s)
      (begun ⟨runner', tool', rules⟩ stage' s') := by
    simp [StageRecord.Alike, StageRecord.withoutCommand, begun, h.name_eq, h.kind_eq, hs.stamp]
  have hanswered : StageRecord.Alike (answered ⟨runner, tool, rules⟩ stage s)
      (answered ⟨runner', tool', rules⟩ stage' s') := by
    unfold answered
    rw [hissued.1]
    exact hbegun.afterCommand h
  rw [outcome_perform, outcome_perform]
  exact RunM.Alike.bind (alike_settle hrunner h hanswered) (fun _ _ hr => alike_conclude hr) _ _
    hissued.2

/-- What comes of the stages is alike; the reason of a failed one quotes its command. -/
def AlikeResults (x y : List StageRecord × Option Stop) : Prop :=
  x.1.map StageRecord.withoutCommand = y.1.map StageRecord.withoutCommand ∧
    x.2.map Stop.withoutCommand = y.2.map Stop.withoutCommand

theorem alike_stop {r r' : StageRecord} (hr : r.Alike r') :
    RunM.Alike (Session.Alike alike tool tool' earlier)
      (fun reason reason' => Stop.withoutCommand ⟨r.name, r.status, reason⟩ =
        Stop.withoutCommand ⟨r'.name, r'.status, reason'⟩) (stopReason r) (stopReason r') := by
  unfold stopReason StageRecord.diagnosis?
  rw [hr.name_eq, hr.status_eq]
  by_cases hfailed : r'.status = .failed
  · rw [if_pos hfailed, if_pos hfailed]
    exact .pure (by simp only [Stop.withoutCommand, hfailed, if_true])
  · rw [if_neg hfailed, if_neg hfailed]
    exact RunM.Alike.read fun s s' h => by rw [h.cancelled]

theorem alike_runStages (hrunner : runner.Alike alike tool tool' runner')
    (htools : tool.Alike tool') {stages stages' : List Stage}
    (h : List.Forall₂ (Stage.Alike tool tool') stages stages') :
    RunM.Alike (Session.Alike alike tool tool' earlier) AlikeResults
      (runStages ⟨runner, tool, rules⟩ stages) (runStages ⟨runner', tool', rules⟩ stages') := by
  induction h with
  | nil => exact .pure ⟨rfl, rfl⟩
  | cons hstage _ ih =>
    unfold runStages
    refine RunM.Alike.cancelled.bindEq ?_
    rintro (_ | reason)
    · refine (alike_perform hrunner htools hstage).bind fun r r' hr => ?_
      rw [hr.status_eq]
      split
      · refine (alike_stop hr).bind fun reason reason' hstop => .pure ⟨?_, ?_⟩
        · exact congrArg ([·]) hr
        · exact congrArg some (by simpa [hr.status_eq] using hstop)
      · refine ih.bind fun results results' hresults => .pure ⟨?_, hresults.2⟩
        exact congrArg₂ List.cons hr hresults.1
    · exact .pure ⟨rfl, by rw [hstage.name_eq]⟩

theorem alike_run (hrunner : runner.Alike alike tool tool' runner') (htools : tool.Alike tool')
    {stages stages' : List Stage} (direction : Direction)
    (h : List.Forall₂ (Stage.Alike tool tool') stages stages') :
    RunM.Alike (Session.Alike alike tool tool' earlier)
      (fun r r' => r.withoutCommands = r'.withoutCommands)
      (run ⟨runner, tool, rules⟩ direction stages)
      (run ⟨runner', tool', rules⟩ direction stages') := by
  refine (alike_runStages hrunner htools h).bind fun x y hxy => .pure ?_
  simp [SequenceRecord.withoutCommands, hxy.1, hxy.2]

end Conductor

end MeshTestbed
