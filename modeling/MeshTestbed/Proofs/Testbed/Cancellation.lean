import MeshTestbed.Proofs.Sequence.Cancellation
import MeshTestbed.Proofs.Testbed.Preview

namespace MeshTestbed

namespace ClusterTool

variable {tool : ClusterTool} {c : Call}

theorem command_inj {xs ys : Argv} : tool.command xs = tool.command ys ↔ xs = ys := by
  simp [command]

theorem IsListing.exists_args (h : tool.IsListing c) : ∃ args, c.argv = tool.command args ∧
    (args.head? = some "get" ∧ args.length = 6 ∨ args.head? = some "rsh" ∨
      args.head? = some "exec") := by
  cases h with
  | images ns => exact ⟨_, rfl, .inl ⟨rfl, rfl⟩⟩
  | packages ns pod =>
    dsimp only
    unfold showPackages
    split
    · exact ⟨_, rfl, .inr (.inl rfl)⟩
    · exact ⟨_, rfl, .inr (.inr rfl)⟩

end ClusterTool

/-- The command gets something, with fewer arguments or more than a listing has. -/
def ClusterTool.IsQuery (tool : ClusterTool) (argv : Argv) : Prop :=
  ∃ args, argv = tool.command args ∧ args.head? = some "get" ∧ args.length ≠ 6

theorem Wait.isQuery (wait : Wait) (tool : ClusterTool) : tool.IsQuery (wait.queryArgv tool) := by
  unfold queryArgv queryArgv.pods ClusterTool.showNamed
  repeat' split
  all_goals
    rcases wait.ns with _ | ns <;> exact ⟨_, rfl, rfl, by simp [ClusterTool.namespaceArgs]⟩

def ClusterTool.changes : List String := ["apply", "delete", "new-project", "create", "adm"]

/-- The action runs the cluster tool, to change something. -/
def Action.IsChange (tool : ClusterTool) (action : Action) : Prop :=
  ∃ args word, (action.call tool).argv = tool.command args ∧ args.head? = some word ∧
    word ∈ ClusterTool.changes

theorem Action.isChange {tool : ClusterTool} {action : Action}
    (h : ∀ argv, action ≠ .runExternalScript argv) : action.IsChange tool := by
  unfold IsChange call
  split
  · exact ⟨_, _, rfl, rfl, by decide⟩
  · exact ⟨_, _, rfl, rfl, by decide⟩
  · exact ⟨_, _, rfl, rfl, by decide⟩
  · exact ⟨_, _, rfl, rfl, by decide⟩
  · unfold ClusterTool.createNamespace
    split <;> exact ⟨_, _, rfl, rfl, by decide⟩
  · unfold ClusterTool.deleteNamespace
    split <;> exact ⟨_, _, rfl, rfl, by decide⟩
  · exact ⟨_, _, rfl, rfl, by decide⟩
  · exact absurd rfl (h _)

namespace Plan

variable {p : Plan} {tool : ClusterTool} {stage : Stage}

theorem Makes.isChange (h : p.Makes tool stage) : stage.action.IsChange tool := by
  induction h with
  | grant g => exact ⟨_, _, rfl, rfl, by decide⟩
  | settling _ _ _ ih => exact ih
  | _ => exact Action.isChange (by rintro _ ⟨⟩)

theorem isChange_of_undo {undone : Stage} (h : undone.undo? = some stage) :
    stage.action.IsChange tool := by
  obtain ⟨action, haction, rfl⟩ := Option.map_eq_some_iff.1 h
  refine Action.isChange fun argv hargv => ?_
  dsimp only at hargv
  rw [hargv] at haction
  unfold Action.undo? at haction
  split at haction <;> cases haction

theorem isChange_of_mem_installation (h : stage ∈ p.installation tool) :
    stage.action.IsChange tool := by
  rw [installation_eq] at h
  rcases List.mem_append.1 h with hkept | hremoved
  · exact (makes_of_mem_kept hkept).isChange
  · exact isChange_of_undo (undo_of_mem_removed hremoved)

theorem isChange_of_mem_removal (h : stage ∈ p.removal tool) : stage.action.IsChange tool := by
  rcases List.mem_append.1 h with hundone | hcleanup
  · obtain ⟨undone, -, hundo⟩ := List.mem_filterMap.1 hundone
    exact isChange_of_undo hundo
  · unfold cleanup at hcleanup
    split at hcleanup
    · obtain rfl := List.mem_singleton.1 hcleanup
      exact Action.isChange (by rintro _ ⟨⟩)
    · cases hcleanup

end Plan

/-- What a stage hands over is not the command of an inventory. -/
theorem Conductor.not_isListing_of_mem_commandsIn {σ : Type} {seq : Conductor σ} {stage : Stage}
    {c : Call} (hchange : stage.action.IsChange seq.tool) (hc : c ∈ seq.commandsIn stage) :
    ¬ seq.tool.IsListing c := by
  intro hlisting
  obtain ⟨args, hargs, hshape⟩ := hlisting.exists_args
  -- An action is told from a listing by its first word, a query by the number of its arguments.
  rcases List.mem_cons.1 hc with rfl | hquery
  · obtain ⟨args', word, hargs', hword, hmem⟩ := hchange
    obtain rfl : args = args' := ClusterTool.command_inj.1 (hargs.symm.trans hargs')
    simp only [ClusterTool.changes, List.mem_cons, List.not_mem_nil, or_false] at hmem
    rcases hmem with rfl | rfl | rfl | rfl | rfl <;> simp [hword] at hshape
  · obtain ⟨wait, -, rfl⟩ := List.mem_map.1 hquery
    obtain ⟨args', hargs', hword, hlength⟩ := wait.isQuery seq.tool
    obtain rfl : args = args' := ClusterTool.command_inj.1 (hargs.symm.trans hargs')
    simp [hword, hlength] at hshape

open Session (Heeds)

variable {σ : Type} {t : Testbed σ} {stages : List Stage} {early late : Call → Prop}
  {s : Session σ}

theorem RunM.heeds_imagesOf {runner : Runner σ} {tool : ClusterTool} {ns : String}
    (hearly : ∀ c, tool.IsListing c → early c) (hlate : ∀ c, tool.IsListing c → late c) :
    Heeds early late s ((imagesOf runner tool ns).outcome s).2 := by
  have himages : tool.IsListing ⟨tool.showImages ns, none⟩ := .images ns
  refine .bind (.call_anyway (hearly _ himages) (hlate _ himages)) fun answer u _ => ?_
  split <;> exact .refl

theorem RunM.heeds_packagesOf {runner : Runner σ} {tool : ClusterTool} {filter ns pod : String}
    (hearly : ∀ c, tool.IsListing c → early c) (hlate : ∀ c, tool.IsListing c → late c) :
    Heeds early late s ((packagesOf runner tool filter ns pod).outcome s).2 := by
  have hpackages : tool.IsListing ⟨tool.showPackages ns pod, none⟩ := .packages ns pod
  refine .bind (.call_anyway (hearly _ hpackages) (hlate _ hpackages)) fun answer u _ => ?_
  split <;> exact .refl

namespace Testbed

theorem heeds_takeInventory {sequence : SequenceRecord}
    (hearly : ∀ c, t.tool.IsListing c → early c) (hlate : ∀ c, t.tool.IsListing c → late c) :
    Heeds early late s ((t.takeInventory sequence).outcome s).2 := by
  unfold takeInventory
  split
  · exact .refl
  refine .bind (.mapM fun _ _ _ => RunM.heeds_imagesOf hearly hlate) fun namespaces u _ => ?_
  dsimp only
  split
  · exact .bind (.mapM fun _ _ _ => RunM.heeds_packagesOf hearly hlate) fun _ _ _ => .refl
  · exact .bind .refl fun _ _ _ => .refl

theorem heeds_installSequence
    (hstages : ∀ stage ∈ t.plan.installation t.tool, ∀ c ∈ t.conductor.commandsIn stage, early c)
    (hearly : ∀ c, t.tool.IsListing c → early c) (hlate : ∀ c, t.tool.IsListing c → late c) :
    Heeds early late s (t.installSequence.outcome s).2 := by
  have hlasting : ∀ stage ∈ t.plan.lasting t.tool, ∀ c ∈ t.conductor.commandsIn stage, early c :=
    fun stage hstage => hstages stage (List.mem_append_left _ hstage)
  unfold installSequence
  refine .bind (Conductor.heeds_run hlasting) fun sequence u _ => ?_
  split
  · next verify teardown hpair =>
    have hverify : ∀ stage ∈ [verify], ∀ c ∈ t.conductor.commandsIn stage, early c :=
      fun stage hstage => hstages stage (by simp_all [Plan.installation])
    have hteardown : ∀ stage ∈ [teardown], ∀ c ∈ t.conductor.commandsIn stage, early c :=
      fun stage hstage => hstages stage (by simp_all [Plan.installation])
    split
    · refine .bind (Conductor.heeds_run hverify) fun verified u _ => ?_
      refine .bind (heeds_takeInventory hearly hlate) fun images u _ => ?_
      split
      · exact .bind (Conductor.heeds_run hteardown) fun _ _ _ => .refl
      · exact .refl
    · exact .bind (heeds_takeInventory hearly hlate) fun _ _ _ => .refl
  · exact .bind (heeds_takeInventory hearly hlate) fun _ _ _ => .refl

theorem heeds_uninstallSequence
    (hstages : ∀ stage ∈ t.plan.removal t.tool, ∀ c ∈ t.conductor.commandsIn stage, early c) :
    Heeds early late s (t.uninstallSequence.outcome s).2 := by
  unfold uninstallSequence
  refine .bind (Conductor.heeds_run fun stage hstage => ?_) fun sequence u _ => ?_
  · exact hstages stage (List.mem_append_left _ hstage)
  split
  · refine .bind (Conductor.heeds_run fun stage hstage => ?_) fun _ _ _ => .refl
    exact hstages stage (List.mem_append_right _ hstage)
  · exact .refl

theorem heeds_checkSession (huncancelled : s.cancelled = none) (hprobe : early t.probe) :
    Heeds early late s (t.checkSession.outcome s).2 := by
  unfold checkSession
  refine .bind (.call huncancelled hprobe) fun answer u _ => ?_
  split
  · split <;> exact .refl
  · exact .refl

theorem heeds_enter (huncancelled : s.cancelled = none) (hprobe : early t.probe) :
    Heeds early late s ((t.enter stages).outcome s).2 := by
  unfold enter
  split
  · exact .refl
  split
  · exact .refl
  refine .bind (heeds_checkSession huncancelled hprobe) fun checked u _ => ?_
  split
  · exact .refl
  refine .bind .refl fun reason u _ => ?_
  split <;> exact .refl

theorem heeds_install {runId : String} (huncancelled : s.cancelled = none)
    (hprobe : early t.probe)
    (hstages : ∀ stage ∈ t.plan.installation t.tool, ∀ c ∈ t.conductor.commandsIn stage, early c)
    (hearly : ∀ c, t.tool.IsListing c → early c) (hlate : ∀ c, t.tool.IsListing c → late c) :
    Heeds early late s ((t.install runId).outcome s).2 := by
  unfold install
  refine .bind (heeds_enter huncancelled hprobe) fun entered u _ => ?_
  split
  · exact .refl
  refine .bind .refl fun startedAt u _ => .bind .told fun _ u _ => ?_
  refine .bind (heeds_installSequence hstages hearly hlate) fun answer u _ => ?_
  exact .bind .told fun _ _ _ => .refl

theorem heeds_uninstall {runId : String} (huncancelled : s.cancelled = none)
    (hprobe : early t.probe)
    (hstages : ∀ stage ∈ t.plan.removal t.tool, ∀ c ∈ t.conductor.commandsIn stage, early c) :
    Heeds early late s ((t.uninstall runId).outcome s).2 := by
  unfold uninstall
  refine .bind (heeds_enter huncancelled hprobe) fun entered u _ => ?_
  split
  · exact .refl
  refine .bind .refl fun startedAt u _ => .bind .told fun _ u _ => ?_
  refine .bind (heeds_uninstallSequence hstages) fun answer u _ => ?_
  exact .bind .told fun _ _ _ => .refl

/-- The run is refused and hands over the probe at most. If the cluster answers the probe, the
refusal is for this reason. -/
def Refuses (t : Testbed σ) (reason : String) (s : Session σ) (m : RunM σ (Except RunError α)) :
    Prop :=
  ∃ e s', m.Yields s (.error e) s' ∧
    (s' = s ∨ s' = (s.call t.runner t.probe).2 ∧ (t.HasSession s → e = .cancelled reason))

variable {reason : String}

theorem Refuses.bind {m : RunM σ (Except RunError α)}
    {f : Except RunError α → RunM σ (Except RunError β)} (h : t.Refuses reason s m)
    (hf : ∀ e, f (.error e) = pure (.error e)) : t.Refuses reason s (m >>= f) := by
  obtain ⟨e, s', hyields, hcalls⟩ := h
  refine ⟨e, s', RunM.yields_bind.2 ⟨_, _, hyields, ?_⟩, hcalls⟩
  rw [hf]
  exact RunM.yields_pure.2 ⟨rfl, rfl⟩

theorem refuses_enter (hcancelled : s.cancelled = some reason) :
    t.Refuses reason s (t.enter stages) := by
  unfold enter
  split
  · exact ⟨_, s, RunM.yields_pure.2 ⟨rfl, rfl⟩, .inl rfl⟩
  split
  · exact ⟨_, s, RunM.yields_pure.2 ⟨rfl, rfl⟩, .inl rfl⟩
  obtain ⟨checked, hchecked, hsession⟩ := exists_yields_checkSession (t := t) (s := s)
  have hstill : (s.call t.runner t.probe).2.cancelled = some reason :=
    Session.KeepsCancellation.call reason hcancelled
  simp only [Refuses, RunM.yields_bind]
  rcases checked with e | ⟨⟩
  · refine ⟨e, _, ⟨_, _, hchecked, RunM.yields_pure.2 ⟨rfl, rfl⟩⟩, .inr ⟨rfl, fun h => ?_⟩⟩
    exact absurd (hsession h) (by simp)
  · refine ⟨.cancelled reason, _, ⟨_, _, hchecked, ?_⟩, .inr ⟨rfl, fun _ => rfl⟩⟩
    dsimp only
    rw [RunM.yields_cancelled_bind, hstill]
    exact RunM.yields_pure.2 ⟨rfl, rfl⟩

theorem refuses_install {runId : String} (hcancelled : s.cancelled = some reason) :
    t.Refuses reason s (t.install runId) :=
  (refuses_enter hcancelled).bind fun _ => rfl

theorem refuses_uninstall {runId : String} (hcancelled : s.cancelled = some reason) :
    t.Refuses reason s (t.uninstall runId) :=
  (refuses_enter hcancelled).bind fun _ => rfl

/-- The command is the probe, or belongs to one of the stages. -/
def Issues (t : Testbed σ) (stages : List Stage) (c : Call) : Prop :=
  c = t.probe ∨ ∃ stage ∈ stages, c ∈ t.conductor.commandsIn stage

/-- Once an install or an uninstall is cancelled, none of their stages hands over a command or a
query any more; listings there may be. If it was cancelled before it began, the probe is all. -/
theorem cancellation_heeded (t : Testbed σ) (runId : String) (s : Session σ) :
    (s.cancelled = none →
      Heeds (fun c => t.Issues (t.plan.installation t.tool) c ∨ t.tool.IsListing c)
        t.tool.IsListing s ((t.install runId).outcome s).2 ∧
      Heeds (t.Issues (t.plan.removal t.tool)) (fun _ => False) s
        ((t.uninstall runId).outcome s).2) ∧
    (∀ reason, s.cancelled = some reason →
      t.Refuses reason s (t.install runId) ∧ t.Refuses reason s (t.uninstall runId)) ∧
    ∀ stage ∈ t.plan.installation t.tool ++ t.plan.removal t.tool,
      ∀ c ∈ t.conductor.commandsIn stage, ¬ t.tool.IsListing c := by
  refine ⟨fun huncancelled => ⟨?_, ?_⟩, fun reason hcancelled => ⟨?_, ?_⟩, ?_⟩
  · refine heeds_install huncancelled (.inl (.inl rfl)) ?_ (fun c hc => .inr hc) fun c hc => hc
    exact fun stage hstage c hc => .inl (.inr ⟨stage, hstage, hc⟩)
  · refine heeds_uninstall huncancelled (.inl rfl) ?_
    exact fun stage hstage c hc => .inr ⟨stage, hstage, hc⟩
  · exact refuses_install hcancelled
  · exact refuses_uninstall hcancelled
  · intro stage hstage c hc
    refine Conductor.not_isListing_of_mem_commandsIn ?_ hc
    rcases List.mem_append.1 hstage with hinstalled | hremoved
    · exact Plan.isChange_of_mem_installation hinstalled
    · exact Plan.isChange_of_mem_removal hremoved

def auditedSmoke : Testbed (Nat × List Reply) where
  plan :=
    { Plan.standard with
      selection := ⟨false, false, true⟩
      controlPlane := { Plan.standard.controlPlane with ns := "bookinfo" }
      audit := some { podFilter := "web" } }
  runner := (Runner.ofReplies { result := .ok { stdout := "web 2/2 Running" } }).interruptedAt 4
    "signal"
  tool := {}

/-- After the images one pod's packages are listed, but the smoke workload is not removed any more;
and a run that was cancelled before it began ends at the probe. -/
theorem cancellation_heeded_of_audit :
    (∃ before after, Session.Handed before after { memory := (0, []) }
        ((auditedSmoke.install "run").outcome { memory := (0, []) }).2 ∧
      (∀ c ∈ after, auditedSmoke.tool.IsListing c.call) ∧ after.length = 1) ∧
    auditedSmoke.Refuses "signal" { memory := (0, []), cancelled := some "signal" }
      (auditedSmoke.install "run") := by
  let s : Session (Nat × List Reply) := { memory := (0, []) }
  obtain ⟨hheeds, -, -⟩ := cancellation_heeded auditedSmoke "run" s
  obtain ⟨-, hrefuses, -⟩ :=
    cancellation_heeded auditedSmoke "run" { s with cancelled := some "signal" }
  obtain ⟨⟨before, after, hhanded, -, hafter⟩, -⟩ := hheeds rfl
  refine ⟨⟨before, after, hhanded, hafter, ?_⟩, (hrefuses "signal" rfl).1⟩
  have hmarked : ((auditedSmoke.install "run").outcome s).2.log.countP (·.cancelled) = 1 := by
    decide +kernel
  have hlate : after.countP (·.cancelled) = after.length :=
    List.countP_eq_length.2 hhanded.marked
  have hearly : before.countP (·.cancelled) = 0 :=
    List.countP_eq_zero.2 fun c hc => by simp [hhanded.unmarked c hc]
  simpa [hhanded.log_eq, hlate, hearly, s] using hmarked

end Testbed

end MeshTestbed
