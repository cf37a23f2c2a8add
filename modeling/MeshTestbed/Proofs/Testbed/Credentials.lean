import MeshTestbed.Command.Process
import MeshTestbed.Proofs.Plan.Removal
import MeshTestbed.Proofs.Sequence.Credentials
import MeshTestbed.Proofs.Testbed.Accounting

namespace MeshTestbed

variable {σ τ : Type} {alike : σ → τ → Prop} {tool tool' : ClusterTool} {earlier : List Call}
  {runner : Runner σ} {runner' : Runner τ}

namespace Stage

variable {stage stage' : Stage}

theorem alike_of_brings (h : stage.brings = true) : stage.Alike tool tool' stage := by
  refine .same fun argv haction => ?_
  simp [brings, kind, haction, Action.kind] at h

theorem Alike.fault?_eq (htools : tool.Alike tool') (h : stage.Alike tool tool' stage') :
    stage.fault? = stage'.fault? := by
  cases h with
  | same => rfl
  | spelled stage args =>
    have hlacks : lacksProgram { stage with action := .runExternalScript (tool.command args) } =
        lacksProgram { stage with action := .runExternalScript (tool'.command args) } := by
      change Text.isBlankText tool.program = Text.isBlankText tool'.program
      rw [htools.program]
    simp only [fault?, hlacks]

theorem checkAll_alike (htools : tool.Alike tool') {stages stages' : List Stage}
    (h : List.Forall₂ (Stage.Alike tool tool') stages stages') :
    checkAll stages = checkAll stages' := by
  have hfaults : stages.findSome? fault? = stages'.findSome? fault? := by
    induction h with
    | nil => rfl
    | cons hstage _ ih => rw [List.findSome?_cons, List.findSome?_cons, hstage.fault?_eq htools, ih]
  have hnames : stages.map (·.name) = stages'.map (·.name) := by
    rw [← List.forall₂_eq_eq_eq, List.forall₂_map_left_iff, List.forall₂_map_right_iff]
    exact h.imp fun _ _ hstage => hstage.name_eq
  unfold checkAll
  rw [hfaults, hnames]

end Stage

namespace Plan

variable {p : Plan}

theorem alike_lasting :
    List.Forall₂ (Stage.Alike tool tool') (p.lasting tool) (p.lasting tool') := by
  have hsame {stages : List Stage} (h : ∀ stage ∈ stages, stage.brings = true) :
      List.Forall₂ (Stage.Alike tool tool') stages stages :=
    List.forall₂_same.2 fun stage hstage => Stage.alike_of_brings (h stage hstage)
  have hgrants : List.Forall₂ (Stage.Alike tool tool') (p.operators.grants.map (grantStage tool))
      (p.operators.grants.map (grantStage tool')) := by
    rw [List.forall₂_map_left_iff, List.forall₂_map_right_iff]
    exact List.forall₂_same.2 fun g _ => .spelled (grantStage tool g) _
  unfold lasting
  refine List.rel_append (List.rel_append (List.rel_append ?_ (hsame ?_)) (hsame ?_)) (hsame ?_)
  · split
    · rw [operatorSetup_eq, operatorSetup_eq]
      exact List.rel_append hgrants (hsame fun stage h => (applied_of_mem_operatorStages h).2)
    · exact .nil
  · intro stage hstage
    split at hstage
    · rw [List.mem_cons, List.mem_singleton] at hstage
      rcases hstage with rfl | rfl <;> rfl
    · cases hstage
  · intro stage hstage
    obtain ⟨ns, -, rfl⟩ := List.mem_map.1 hstage
    rfl
  · intro stage hstage
    split at hstage
    · obtain rfl := List.mem_singleton.1 hstage
      rfl
    · cases hstage

theorem alike_cleanup : List.Forall₂ (Stage.Alike tool tool') p.cleanup p.cleanup := by
  refine List.forall₂_same.2 fun stage hstage => ?_
  unfold cleanup at hstage
  split at hstage
  · obtain rfl := List.mem_singleton.1 hstage
    exact .same fun _ h => by cases h
  · cases hstage

variable (tool tool') in
theorem alike_smokePair {verify teardown : Stage} (h : p.smokePair? = some (verify, teardown)) :
    verify.Alike tool tool' verify ∧ teardown.Alike tool tool' teardown := by
  obtain ⟨rfl, hundo⟩ := eq_of_smokePair h
  have hverify : p.smokeVerify.Alike tool tool' p.smokeVerify := Stage.alike_of_brings rfl
  have hundone := hverify.undo?
  rw [hundo, Option.rel_some_some] at hundone
  exact ⟨hverify, hundone⟩

theorem alike_installation :
    List.Forall₂ (Stage.Alike tool tool') (p.installation tool) (p.installation tool') := by
  refine List.rel_append alike_lasting ?_
  split
  · next hpair =>
    have hsmoke := alike_smokePair tool tool' hpair
    exact .cons hsmoke.1 (.cons hsmoke.2 .nil)
  · exact .nil

theorem alike_removal :
    List.Forall₂ (Stage.Alike tool tool') (p.removal tool) (p.removal tool') :=
  List.rel_append (Stage.Alike.undoing alike_lasting) alike_cleanup

end Plan

namespace SequenceRecord

variable {r r' later later' : SequenceRecord}

theorem withoutCommands_followedBy :
    (r.followedBy later).withoutCommands = r.withoutCommands.followedBy later.withoutCommands := by
  simp [withoutCommands, followedBy, Option.map_or]

theorem isComplete_withoutCommands : r.withoutCommands.isComplete = r.isComplete := by
  simp [isComplete, withoutCommands]

theorem isCancelled_withoutCommands : r.withoutCommands.isCancelled = r.isCancelled := by
  unfold isCancelled withoutCommands
  rcases r.stop with _ | stop
  · rfl
  · dsimp only [Option.map_some, Option.any_some]
    unfold Stop.withoutCommand
    split <;> rfl

theorem ofSequence_withoutCommands :
    Verdict.ofSequence r.withoutCommands = Verdict.ofSequence r := by
  have hoverruns : r.withoutCommands.hasOverruns = r.hasOverruns := by
    rw [hasOverruns, withoutCommands, List.any_map]
    rfl
  unfold Verdict.ofSequence
  rw [isCancelled_withoutCommands, isComplete_withoutCommands, hoverruns]

def Alike (r r' : SequenceRecord) : Prop := r.withoutCommands = r'.withoutCommands

namespace Alike

theorem isComplete_eq (h : r.Alike r') : r.isComplete = r'.isComplete := by
  rw [← isComplete_withoutCommands, h, isComplete_withoutCommands]

theorem isCancelled_eq (h : r.Alike r') : r.isCancelled = r'.isCancelled := by
  rw [← isCancelled_withoutCommands, h, isCancelled_withoutCommands]

theorem verdict_eq (h : r.Alike r') : Verdict.ofSequence r = Verdict.ofSequence r' := by
  rw [← ofSequence_withoutCommands, h, ofSequence_withoutCommands]

theorem followedBy (h : r.Alike r') (hlater : later.Alike later') :
    (r.followedBy later).Alike (r'.followedBy later') := by
  rw [Alike, withoutCommands_followedBy, withoutCommands_followedBy, h, hlater]

end Alike

end SequenceRecord

def InstallRecord.withoutCommands (r : InstallRecord) : InstallRecord :=
  { r with sequence := r.sequence.withoutCommands }

def RemovalRecord.withoutCommands (r : RemovalRecord) : RemovalRecord :=
  { r with sequence := r.sequence.withoutCommands }

namespace RunM

theorem alike_imagesOf (hrunner : runner.Alike alike tool tool' runner') (ns : String) :
    Alike (Session.Alike alike tool tool' earlier) Eq (imagesOf runner tool ns)
      (imagesOf runner' tool' ns) := by
  refine (Alike.call_of_alike hrunner (.of_args _ _)).bindEq fun answer => ?_
  split <;> exact .pure rfl

theorem alike_packagesOf (hrunner : runner.Alike alike tool tool' runner')
    (htools : tool.Alike tool') (filter ns pod : String) :
    Alike (Session.Alike alike tool tool' earlier) Eq (packagesOf runner tool filter ns pod)
      (packagesOf runner' tool' filter ns pod) := by
  have hcall : Call.Alike tool tool' ⟨tool.showPackages ns pod, none⟩
      ⟨tool'.showPackages ns pod, none⟩ := by
    unfold ClusterTool.showPackages
    rw [htools.flavor]
    split <;> exact .of_args _ _
  refine (Alike.call_of_alike hrunner hcall).bindEq fun answer => ?_
  split <;> exact .pure rfl

end RunM

namespace Testbed

variable {plan : Plan} {rules : Tolerances} {sequence sequence' : SequenceRecord}

theorem alike_takeInventory (hrunner : runner.Alike alike tool tool' runner')
    (htools : tool.Alike tool') (h : sequence.Alike sequence') :
    RunM.Alike (Session.Alike alike tool tool' earlier) Eq
      (takeInventory ⟨plan, runner, tool, rules⟩ sequence)
      (takeInventory ⟨plan, runner', tool', rules⟩ sequence') := by
  unfold takeInventory
  rw [h.isCancelled_eq]
  split
  · exact .pure rfl
  refine (RunM.Alike.mapM (RunM.alike_imagesOf hrunner) _).bindEq fun namespaces => ?_
  dsimp only
  split
  · refine (RunM.Alike.mapM (fun _ => ?_) _).bindEq fun packages => ?_
    · exact RunM.alike_packagesOf hrunner htools _ _ _
    exact .pure rfl
  · exact .pure rfl

theorem alike_enter (hrunner : runner.Alike alike tool tool' runner') (htools : tool.Alike tool')
    {stages stages' : List Stage} (h : List.Forall₂ (Stage.Alike tool tool') stages stages') :
    RunM.Alike (Session.Alike alike tool tool' earlier) Eq
      (enter ⟨plan, runner, tool, rules⟩ stages)
      (enter ⟨plan, runner', tool', rules⟩ stages') := by
  have hprobe : Call.Alike tool tool' ⟨tool.sessionCheck, none⟩ ⟨tool'.sessionCheck, none⟩ := by
    unfold ClusterTool.sessionCheck
    rw [htools.flavor]
    split <;> exact .of_args _ _
  have hsession : RunM.Alike (Session.Alike alike tool tool' earlier) Eq
      (checkSession ⟨plan, runner, tool, rules⟩) (checkSession ⟨plan, runner', tool', rules⟩) := by
    refine (RunM.Alike.call_of_alike hrunner hprobe).bindEq ?_
    rintro (e | output)
    · exact .pure (by rw [htools.program])
    · dsimp only
      split <;> exact .pure rfl
  unfold enter
  rw [Stage.checkAll_alike htools h]
  dsimp only
  split
  · exact .pure rfl
  split
  · exact .pure rfl
  refine hsession.bindEq fun checked => ?_
  split
  · exact .pure rfl
  refine RunM.Alike.cancelled.bindEq ?_
  rintro (_ | reason) <;> exact .pure rfl

theorem alike_installSequence (hrunner : runner.Alike alike tool tool' runner')
    (htools : tool.Alike tool') :
    RunM.Alike (Session.Alike alike tool tool' earlier)
      (fun x y => x.1.Alike y.1 ∧ x.2 = y.2) (installSequence ⟨plan, runner, tool, rules⟩)
      (installSequence ⟨plan, runner', tool', rules⟩) := by
  have hcarried {stages stages' : List Stage}
      (h : List.Forall₂ (Stage.Alike tool tool') stages stages') :
      RunM.Alike (Session.Alike alike tool tool' earlier) SequenceRecord.Alike
        (Conductor.carryOut ⟨runner, tool, rules⟩ stages)
        (Conductor.carryOut ⟨runner', tool', rules⟩ stages') :=
    Conductor.alike_run hrunner htools .forward h
  have hinventory {sequence sequence' : SequenceRecord} (h : sequence.Alike sequence') :
      RunM.Alike (Session.Alike alike tool tool' earlier) (fun x y => x.1.Alike y.1 ∧ x.2 = y.2)
        (do return (sequence, ← takeInventory ⟨plan, runner, tool, rules⟩ sequence))
        (do return (sequence', ← takeInventory ⟨plan, runner', tool', rules⟩ sequence')) :=
    (alike_takeInventory hrunner htools h).bind fun _ _ himages => .pure ⟨h, himages⟩
  refine (hcarried Plan.alike_lasting).bind fun sequence sequence' h => ?_
  dsimp only
  split
  · next verify teardown hpair =>
    obtain ⟨hverify, hteardown⟩ := Plan.alike_smokePair tool tool' hpair
    rw [h.isComplete_eq]
    split
    · refine (hcarried (.cons hverify .nil)).bind fun verified verified' hverified => ?_
      have hsofar := h.followedBy hverified
      refine (alike_takeInventory hrunner htools hsofar).bindEq fun images => ?_
      rw [hverified.isComplete_eq]
      split
      · exact (hcarried (.cons hteardown .nil)).bind fun _ _ hremoved =>
          .pure ⟨hsofar.followedBy hremoved, rfl⟩
      · exact .pure ⟨hsofar, rfl⟩
    · exact hinventory h
  · exact hinventory h

theorem alike_install (hrunner : runner.Alike alike tool tool' runner') (htools : tool.Alike tool')
    (runId : String) :
    RunM.Alike (Session.Alike alike tool tool' earlier)
      (fun x y => x.map InstallRecord.withoutCommands = y.map InstallRecord.withoutCommands)
      (install ⟨plan, runner, tool, rules⟩ runId)
      (install ⟨plan, runner', tool', rules⟩ runId) := by
  refine (alike_enter hrunner htools Plan.alike_installation).bindEq fun entered => ?_
  split
  · exact .pure rfl
  refine RunM.Alike.stamp.bindEq fun startedAt => ?_
  refine (RunM.Alike.tell rfl).bindEq fun _ => ?_
  refine (alike_installSequence hrunner htools).bind ?_
  rintro ⟨sequence, images⟩ ⟨sequence', _⟩ ⟨h, rfl⟩
  dsimp only
  rw [h.verdict_eq]
  refine (RunM.Alike.tell rfl).bindEq fun _ => RunM.Alike.stamp.bindEq fun endedAt => ?_
  exact .pure (by simp [Except.map, InstallRecord.withoutCommands, show _ = _ from h])

theorem alike_uninstall (hrunner : runner.Alike alike tool tool' runner')
    (htools : tool.Alike tool') (runId : String) :
    RunM.Alike (Session.Alike alike tool tool' earlier)
      (fun x y => x.map RemovalRecord.withoutCommands = y.map RemovalRecord.withoutCommands)
      (uninstall ⟨plan, runner, tool, rules⟩ runId)
      (uninstall ⟨plan, runner', tool', rules⟩ runId) := by
  have hsequence : RunM.Alike (Session.Alike alike tool tool' earlier) SequenceRecord.Alike
      (uninstallSequence ⟨plan, runner, tool, rules⟩)
      (uninstallSequence ⟨plan, runner', tool', rules⟩) := by
    refine (Conductor.alike_run hrunner htools .backward
      (Stage.Alike.undoing Plan.alike_lasting)).bind fun sequence sequence' h => ?_
    rw [SequenceRecord.Alike.isComplete_eq h]
    split
    · exact (Conductor.alike_run hrunner htools .forward Plan.alike_cleanup).bind fun _ _ hlater =>
        .pure (SequenceRecord.Alike.followedBy h hlater)
    · exact .pure h
  refine (alike_enter hrunner htools Plan.alike_removal).bindEq fun entered => ?_
  split
  · exact .pure rfl
  refine RunM.Alike.stamp.bindEq fun startedAt => ?_
  refine (RunM.Alike.tell rfl).bindEq fun _ => hsequence.bind fun sequence sequence' h => ?_
  dsimp only
  rw [h.verdict_eq]
  refine (RunM.Alike.tell rfl).bindEq fun _ => RunM.Alike.stamp.bindEq fun endedAt => ?_
  exact .pure (by simp [Except.map, RemovalRecord.withoutCommands, show _ = _ from h])

/-- The same testbed with another kubeconfig, or with none, and with a runner of its own. -/
def under (t : Testbed σ) (kubeconfig : Option String) (runner' : Runner τ) : Testbed τ :=
  ⟨t.plan, runner', { t.tool with kubeconfig }, t.tolerance⟩

/-- A run hands over these requests, each as a command that passes the kubeconfig. -/
structure PassesKubeconfig {α : Type} (t : Testbed σ) (kubeconfig : String) (s : Session σ)
    (run : {τ : Type} → Testbed τ → RunM τ (Except RunError α)) (withoutCommands : α → α)
    (requests : List ClusterRequest) : Prop where
  calls_eq : ((run t).outcome s).2.calls = s.calls ++ requests.map fun r =>
    ⟨t.tool.program :: "--kubeconfig" :: kubeconfig :: r.args, r.input⟩
  /-- Without a kubeconfig, and answered alike, the run makes the same requests and comes to the
  same end. -/
  without {τ : Type} (runner' : Runner τ) (alike : σ → τ → Prop) (memory' : τ)
    (hrunner : t.runner.Alike alike t.tool { t.tool with kubeconfig := none } runner')
    (hmemory : alike s.memory memory') :
    let bare := (run (t.under none runner')).outcome (s.withMemory memory')
    bare.2.calls = s.calls ++ (requests.map fun r => ⟨t.tool.program :: r.args, r.input⟩) ∧
      bare.1.map (Except.map withoutCommands) =
        ((run t).outcome s).1.map (Except.map withoutCommands)
  /-- Nor do the requests depend on what the kubeconfig is. -/
  other {τ : Type} (kubeconfig' : String) (runner' : Runner τ) (alike : σ → τ → Prop) (memory' : τ)
    (hrunner : t.runner.Alike alike t.tool { t.tool with kubeconfig := some kubeconfig' } runner')
    (hmemory : alike s.memory memory') :
    ((run (t.under (some kubeconfig') runner')).outcome (s.withMemory memory')).2.calls =
      s.calls ++ requests.map fun r =>
        ⟨t.tool.program :: "--kubeconfig" :: kubeconfig' :: r.args, r.input⟩

/-- The commands that a run hands over are not empty, so no system complains that one is. -/
def NeverEmpty {α : Type} (m : RunM σ α) (s : Session σ) : Prop :=
  ∃ calls, (m.outcome s).2.calls = s.calls ++ calls ∧
    ∀ c ∈ calls, c.argv ≠ [] ∧ ∀ (ρ : Type) (system : ProcessSystem ρ) (state : ρ),
      (system.answer state c).1 ≠ .error .emptyArgv

/-- Through alike tools and runners the runs are alike. -/
structure IsBlind {α : Type} (run : {τ : Type} → Testbed τ → RunM τ (Except RunError α))
    (withoutCommands : α → α) : Prop where
  alike {σ τ : Type} {alike : σ → τ → Prop} {tool tool' : ClusterTool} {earlier : List Call}
    {runner : Runner σ} {runner' : Runner τ} {plan : Plan} {rules : Tolerances}
    (hrunner : runner.Alike alike tool tool' runner') (htools : tool.Alike tool') :
    RunM.Alike (Session.Alike alike tool tool' earlier)
      (fun x y => x.map withoutCommands = y.map withoutCommands)
      (run ⟨plan, runner, tool, rules⟩) (run ⟨plan, runner', tool', rules⟩)

variable {α : Type} {t : Testbed σ} {s : Session σ} {withoutCommands : α → α}
  {run : {τ : Type} → Testbed τ → RunM τ (Except RunError α)}

theorem IsBlind.of_alike (h : IsBlind run withoutCommands) {kubeconfig : Option String}
    {memory' : τ} (hrunner : t.runner.Alike alike t.tool { t.tool with kubeconfig } runner')
    (hmemory : alike s.memory memory') :
    let other := (run (t.under kubeconfig runner')).outcome (s.withMemory memory')
    other.1.map (Except.map withoutCommands) =
        ((run t).outcome s).1.map (Except.map withoutCommands) ∧
      ∃ requests : List ClusterRequest,
        ((run t).outcome s).2.calls = s.calls ++ requests.map (·.call t.tool) ∧
        other.2.calls = s.calls ++ requests.map (·.call { t.tool with kubeconfig }) := by
  have hstart : s.Alike alike t.tool { t.tool with kubeconfig } s.calls (s.withMemory memory') :=
    ⟨hmemory, rfl, rfl, [], by simp, by simp [Session.withMemory, Session.calls]⟩
  obtain ⟨hanswers, hend⟩ := h.alike hrunner ⟨rfl, rfl⟩ s (s.withMemory memory') hstart
  exact ⟨(RunM.answersAlike_iff.1 hanswers).symm, hend.calls⟩

theorem IsBlind.exists_requests (h : IsBlind run withoutCommands) (t : Testbed σ) (s : Session σ) :
    ∃ requests : List ClusterRequest,
      ((run t).outcome s).2.calls = s.calls ++ requests.map (·.call t.tool) := by
  have hself : t.runner.Alike Eq t.tool t.tool t.runner := .refl
  obtain ⟨-, requests, hcalls, -⟩ := h.of_alike (s := s) hself rfl
  exact ⟨requests, hcalls⟩

theorem IsBlind.exists_passesKubeconfig (h : IsBlind run withoutCommands) {kubeconfig : String}
    (hkubeconfig : t.tool.kubeconfig = some kubeconfig) :
    ∃ requests, t.PassesKubeconfig kubeconfig s run withoutCommands requests := by
  obtain ⟨requests, hcalls⟩ := h.exists_requests t s
  -- The commands tell what the requests are, so another run cannot have made others.
  have hunique {requests' : List ClusterRequest}
      (h' : ((run t).outcome s).2.calls = s.calls ++ requests'.map (·.call t.tool)) :
      requests' = requests :=
    List.map_injective_iff.2 (fun _ _ => ClusterRequest.call_inj.1)
      (List.append_cancel_left (h'.symm.trans hcalls))
  refine ⟨requests, ?_, ?_, ?_⟩
  · simpa only [ClusterRequest.call_of_kubeconfig hkubeconfig] using hcalls
  · intro τ runner' alike memory' hrunner hmemory
    obtain ⟨hanswers, requests', hcalls', hother⟩ := h.of_alike hrunner hmemory
    obtain rfl := hunique hcalls'
    exact ⟨hother, hanswers⟩
  · intro τ kubeconfig' runner' alike memory' hrunner hmemory
    obtain ⟨-, requests', hcalls', hother⟩ := h.of_alike hrunner hmemory
    obtain rfl := hunique hcalls'
    exact hother

theorem IsBlind.neverEmpty (h : IsBlind run withoutCommands) : NeverEmpty (run t) s := by
  obtain ⟨requests, hcalls⟩ := h.exists_requests t s
  refine ⟨_, hcalls, fun c hc => ?_⟩
  obtain ⟨request, -, rfl⟩ := List.mem_map.1 hc
  have hargv : (request.call t.tool).argv ≠ [] := ClusterRequest.call_ne_nil
  exact ⟨hargv, fun _ _ _ hempty => hargv (ProcessSystem.answer_eq_emptyArgv_iff.1 hempty)⟩

/-- Installs and uninstalls pass the kubeconfig with every command: the probe, the stages with their
grants, the queries and the listings. What they ask for does not depend on it, and no command is
empty. -/
theorem kubeconfig_on_every_command (t : Testbed σ) (runId : String) (s : Session σ) :
    (∀ kubeconfig, t.tool.kubeconfig = some kubeconfig →
      (∃ requests, t.PassesKubeconfig kubeconfig s (fun t => t.install runId)
        InstallRecord.withoutCommands requests) ∧
      ∃ requests, t.PassesKubeconfig kubeconfig s (fun t => t.uninstall runId)
        RemovalRecord.withoutCommands requests) ∧
    NeverEmpty (t.install runId) s ∧ NeverEmpty (t.uninstall runId) s := by
  have hinstall : IsBlind (fun t => t.install runId) InstallRecord.withoutCommands :=
    ⟨fun hrunner htools => alike_install hrunner htools runId⟩
  have huninstall : IsBlind (fun t => t.uninstall runId) RemovalRecord.withoutCommands :=
    ⟨fun hrunner htools => alike_uninstall hrunner htools runId⟩
  exact ⟨fun _ hkubeconfig => ⟨hinstall.exists_passesKubeconfig hkubeconfig,
      huninstall.exists_passesKubeconfig hkubeconfig⟩, hinstall.neverEmpty, huninstall.neverEmpty⟩

theorem kubeconfig_on_every_command_of_smoke :
    ∃ requests : List ClusterRequest, requests ≠ [] ∧
      (((smokeOnly.under (some "admin.conf") smokeOnly.runner).install "run").outcome
          { memory := [] }).2.calls =
        requests.map (fun r => ⟨"oc" :: "--kubeconfig" :: "admin.conf" :: r.args, r.input⟩) ∧
      ((smokeOnly.install "run").outcome { memory := [] }).2.calls =
        requests.map fun r => ⟨"oc" :: r.args, r.input⟩ := by
  let s : Session (List Reply) := { memory := [] }
  obtain ⟨⟨requests, hpasses⟩, -⟩ := (kubeconfig_on_every_command
    (smokeOnly.under (some "admin.conf") smokeOnly.runner) "run" s).1 "admin.conf" rfl
  have hbare := (hpasses.without smokeOnly.runner Eq [] .ofReplies rfl).1
  refine ⟨requests, ?_, hpasses.calls_eq, hbare⟩
  rintro rfl
  have hnone : ((smokeOnly.install "run").outcome s).2.calls = [] := hbare
  exact absurd hnone (by decide +kernel)

end Testbed

end MeshTestbed
