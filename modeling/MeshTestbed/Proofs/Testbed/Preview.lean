import MeshTestbed.Proofs.Sequence.Composition
import MeshTestbed.Proofs.Sequence.Lag
import MeshTestbed.Proofs.Testbed.Accounting

namespace MeshTestbed

variable {σ : Type}

inductive ClusterTool.IsListing (tool : ClusterTool) : Call → Prop where
  | images (ns : String) : tool.IsListing ⟨tool.showImages ns, none⟩
  | packages (ns pod : String) : tool.IsListing ⟨tool.showPackages ns pod, none⟩

/-- Replies to these commands are the same with and without listing commands before. -/
def Runner.IgnoresListing (runner : Runner σ) (tool : ClusterTool) (memory : σ)
    (commands : List Argv) : Prop :=
  ∀ earlier listing later c, (∀ l ∈ listing, tool.IsListing l) → c.argv ∈ commands →
    (runner.reply (runner.after memory (earlier ++ listing ++ later)) c).1 =
      (runner.reply (runner.after memory (earlier ++ later)) c).1

theorem Runner.IgnoresListing.after {runner : Runner σ} {tool : ClusterTool} {memory : σ}
    {commands : List Argv} (h : runner.IgnoresListing tool memory commands) (calls : List Call) :
    runner.IgnoresListing tool (runner.after memory calls) commands := by
  intro earlier listing later c hlisting hc
  have hreplies := h (calls ++ earlier) listing later c hlisting hc
  simpa only [List.append_assoc, Runner.after_append] using hreplies

namespace Testbed

variable {t : Testbed σ} {stage : Stage} {sequence : SequenceRecord} {images : Option Inventory}
  {s s' u v : Session σ}

theorem isListing_of_mem_listingCalls {inventory : Inventory} {c : Call}
    (h : c ∈ t.listingCalls inventory) : t.tool.IsListing c := by
  rcases List.mem_append.1 h with himages | hpackages
  · obtain ⟨ns, -, rfl⟩ := List.mem_map.1 himages
    exact .images ns
  · obtain ⟨pod, -, rfl⟩ := List.mem_map.1 hpackages
    exact .packages t.plan.controlPlane.ns pod

theorem within_of_mem_installation (h : stage ∈ t.plan.installation t.tool) :
    t.conductor.Within (t.plan.commands t.tool) stage := by
  have hmem : stage ∈ t.plan.installation t.tool ++ t.plan.removal t.tool :=
    List.mem_append_left _ h
  constructor
  · exact List.mem_flatMap.2 ⟨stage, hmem, List.mem_cons_self ..⟩
  · intro wait hwait
    refine List.mem_flatMap.2 ⟨stage, hmem, List.mem_cons_of_mem _ ?_⟩
    exact List.mem_map.2 ⟨wait, by simp [hwait], rfl⟩

theorem Installed.names_eq (h : Installed t s sequence images s') (hstop : sequence.stop = none) :
    sequence.stageNames = (t.plan.installation t.tool).map (·.name) := by
  cases h with
  | @intro rs₁ rs₂ stop₁ stop₂ _ u v _ hkept _ _ hremoved =>
    obtain ⟨rfl, rfl⟩ : stop₁ = none ∧ stop₂ = none := by simpa using hstop
    have hnames := Conductor.Course.names_eq hremoved
    simp only [SequenceRecord.stageNames, Plan.installation_eq, List.map_append, hkept.names_eq,
      hnames]

/-- The session after an inventory lags the one before it. -/
theorem lags_afterCalls {listing : List Call} (hquiet : u.Quiet t.runner)
    (hignores : t.runner.IgnoresListing t.tool u.memory (t.plan.commands t.tool))
    (hlisting : ∀ c ∈ listing, t.tool.IsListing c) :
    ∃ lag, u.Lags t.runner (t.plan.commands t.tool) lag (u.afterCalls t.runner listing) := by
  obtain ⟨hlater, hnow⟩ : (u.afterCalls t.runner listing).Quiet t.runner ∧
      u.now ≤ (u.afterCalls t.runner listing).now := hquiet.afterCalls
  refine ⟨(u.afterCalls t.runner listing).now - u.now, hquiet, hlater, by omega, ?_⟩
  intro later c hc
  rw [Session.issued_afterCalls.memory_eq, ← Runner.after_append]
  exact hignores [] listing later c hlisting hc

theorem yields_carryOut_installation {rs₁ rs₂ : List StageRecord} {stop₁ stop₂ : Option Stop}
    (hkept : t.conductor.Course (t.plan.kept t.tool) s rs₁ stop₁ u)
    (hremoved : t.conductor.Continues t.plan.removed stop₁ u rs₂ stop₂ v) :
    (t.conductor.carryOut (t.plan.installation t.tool)).Yields s
      ⟨.forward, rs₁ ++ rs₂, stop₁.or stop₂⟩ v := by
  rw [Plan.installation_eq]
  exact Conductor.yields_run_iff.2 ⟨rfl, hkept.append hremoved⟩

theorem Installed.carryOut_of_quiet (h : Installed t s sequence images s')
    (hquiet : s.Quiet t.runner)
    (hignores : t.runner.IgnoresListing t.tool s.memory (t.plan.commands t.tool)) :
    ∃ forward v, (t.conductor.carryOut (t.plan.installation t.tool)).Yields s forward v ∧
      sequence.untimed = forward.untimed := by
  cases h with
  | @intro rs₁ rs₂ stop₁ stop₂ images u v _ hkept _ hlisted hremoved =>
    rcases stop₁ with _ | halt
    · have hwithin : ∀ stage ∈ t.plan.installation t.tool,
          t.conductor.Within (t.plan.commands t.tool) stage := fun _ => within_of_mem_installation
      rw [Plan.installation_eq] at hwithin
      have hquietu : u.Quiet t.runner := hkept.quiet hquiet fun stage hstage =>
        hwithin stage (List.mem_append_left _ hstage)
      have hlisting : ∀ c ∈ images.toList.flatMap t.listingCalls, t.tool.IsListing c := by
        intro c hc
        obtain ⟨inventory, -, hcall⟩ := List.mem_flatMap.1 hc
        exact isListing_of_mem_listingCalls hcall
      have hmemory : u.memory = t.runner.after s.memory _ := hkept.issued.memory_eq
      obtain ⟨lag, hlags⟩ := lags_afterCalls hquietu (hmemory ▸ hignores.after _) hlisting
      rw [← hlisted] at hlags
      -- What follows the inventory is moved to where it would have begun without one.
      obtain ⟨rs₂', w, hremoved', huntimed, -⟩ := Conductor.Course.of_lags hremoved hlags
        fun stage hstage => hwithin stage (List.mem_append_right _ hstage)
      refine ⟨_, w, yields_carryOut_installation hkept hremoved', ?_⟩
      simp [SequenceRecord.untimed, huntimed]
    · obtain ⟨rfl, rfl, -⟩ := hremoved
      exact ⟨_, u, yields_carryOut_installation hkept ⟨rfl, rfl, rfl⟩, rfl⟩

theorem carryOut_of_yields_uninstallSequence (h : t.uninstallSequence.Yields s sequence s') :
    ∃ forward, (t.conductor.carryOut (t.plan.removal t.tool)).Yields s forward s' ∧
      sequence = { forward with direction := .backward } := by
  rw [uninstallSequence_eq, Conductor.yields_run_iff] at h
  obtain ⟨hdirection, hcourse⟩ := h
  rcases sequence with ⟨direction, rs, stop⟩
  obtain rfl : direction = .backward := hdirection
  exact ⟨⟨.forward, rs, stop⟩, Conductor.yields_run_iff.2 ⟨rfl, hcourse⟩, rfl⟩

theorem removed_of_yields_uninstall {runId : String} {record : RemovalRecord}
    (h : (t.uninstall runId).Yields s (.ok record) s') :
    ∃ u v forward, (t.enter (t.plan.removal t.tool)).Yields s (.ok ()) u ∧
      (t.conductor.carryOut (t.plan.removal t.tool)).Yields
        (u.told (.runStarted runId "uninstall")) forward v ∧
      record.sequence = { forward with direction := .backward } ∧
      record.verdict = Verdict.ofSequence record.sequence ∧
      s' = v.told (.runFinished runId record.verdict.text) := by
  unfold uninstall at h
  obtain ⟨entered, u, hentered, h⟩ := RunM.yields_bind.1 h
  split at h
  · simp at h
  rw [RunM.yields_stamp_bind, RunM.yields_tell_bind] at h
  obtain ⟨sequence, v, hsequence, h⟩ := RunM.yields_bind.1 h
  rw [RunM.yields_tell_bind, RunM.yields_stamp_bind] at h
  obtain ⟨hrecord, rfl⟩ := RunM.yields_pure.1 h
  cases hrecord
  obtain ⟨forward, hforward, hsame⟩ := carryOut_of_yields_uninstallSequence hsequence
  exact ⟨u, v, forward, hentered, hforward, hsame, rfl, rfl⟩

theorem carryOut_of_yields_uninstall {runId : String} {record : RemovalRecord}
    (h : (t.uninstall runId).Yields s (.ok record) s') :
    ∃ u v forward, (t.enter (t.plan.removal t.tool)).Yields s (.ok ()) u ∧
      (t.conductor.carryOut (t.plan.removal t.tool)).Yields
        (u.told (.runStarted runId "uninstall")) forward v ∧
      record.sequence = { forward with direction := .backward } := by
  obtain ⟨u, v, forward, hentered, hforward, hsame, -⟩ := removed_of_yields_uninstall h
  exact ⟨u, v, forward, hentered, hforward, hsame⟩

/-- An install stops somewhere in its preview, an uninstall is one sequence over its preview, and
so is an install that nothing disturbs, but for the times of its records. -/
theorem runs_as_previewed (t : Testbed σ) (runId : String) (s s' : Session σ) :
    (∀ record, (t.install runId).Yields s (.ok record) s' →
      record.sequence.stageNames <+: (t.plan.installation t.tool).map (·.name) ∧
      (record.sequence.stop = none →
        record.sequence.stageNames = (t.plan.installation t.tool).map (·.name))) ∧
    (∀ record, (t.uninstall runId).Yields s (.ok record) s' →
      ∃ u v forward, (t.enter (t.plan.removal t.tool)).Yields s (.ok ()) u ∧
        (t.conductor.carryOut (t.plan.removal t.tool)).Yields
          (u.told (.runStarted runId "uninstall")) forward v ∧
        record.sequence = { forward with direction := .backward }) ∧
    (s.Quiet t.runner →
      t.runner.IgnoresListing t.tool s.memory (t.plan.commands t.tool) →
      ∀ record, (t.install runId).Yields s (.ok record) s' →
        ∃ u v forward, (t.enter (t.plan.installation t.tool)).Yields s (.ok ()) u ∧
          (t.conductor.carryOut (t.plan.installation t.tool)).Yields
            (u.told (.runStarted runId "install")) forward v ∧
          record.sequence.untimed = forward.untimed) := by
  refine ⟨fun record h => ?_, fun record h => carryOut_of_yields_uninstall h, ?_⟩
  · obtain ⟨u, v, -, hinstalled, -⟩ := installed_of_yields_install h
    exact ⟨hinstalled.names_prefix, hinstalled.names_eq⟩
  · intro hquiet hignores record h
    obtain ⟨u, v, hentered, hinstalled, -⟩ := installed_of_yields_install h
    obtain ⟨rfl, -⟩ := yields_enter hentered
    have hprobed : ((s.call t.runner ⟨t.tool.sessionCheck, none⟩).2.told
        (.runStarted runId "install")).memory =
          t.runner.after s.memory [⟨t.tool.sessionCheck, none⟩] := Session.memory_call
    obtain ⟨forward, w, hforward, hsame⟩ :=
      hinstalled.carryOut_of_quiet hquiet.call.told (hprobed ▸ hignores.after _)
    exact ⟨_, w, forward, hentered, hforward, hsame⟩

theorem after_ofReplies_nil {last : Reply} {calls : List Call} :
    (Runner.ofReplies last).after [] calls = [] := by
  induction calls with
  | nil => rfl
  | cons c calls ih => exact ih

theorem runs_as_previewed_of_smoke :
    (∃ record s', (smokeOnly.install "run").Yields { memory := [] } (.ok record) s' ∧
      record.sequence.stageNames <+:
        (smokeOnly.plan.installation smokeOnly.tool).map (·.name) ∧
      ∃ u v forward,
        (smokeOnly.conductor.carryOut (smokeOnly.plan.installation smokeOnly.tool)).Yields u
          forward v ∧
        record.sequence.untimed = forward.untimed) ∧
    ∃ record s', (smokeOnly.uninstall "run").Yields { memory := [] } (.ok record) s' ∧
      ∃ u v forward,
        (smokeOnly.conductor.carryOut (smokeOnly.plan.removal smokeOnly.tool)).Yields u forward v ∧
        record.sequence = { forward with direction := .backward } := by
  have hquiet : Session.Quiet smokeOnly.runner { memory := [] } := by
    refine ⟨rfl, rfl, fun later c => ?_⟩
    rw [smokeOnly, after_ofReplies_nil]
    rfl
  have hignores : smokeOnly.runner.IgnoresListing smokeOnly.tool []
      (smokeOnly.plan.commands smokeOnly.tool) := by
    intro earlier listing later c _ _
    rw [smokeOnly, after_ofReplies_nil, after_ofReplies_nil]
  obtain ⟨installed, s', hinstall⟩ := RunM.exists_yields_ok
    (show (((smokeOnly.install "run").outcome { memory := [] }).1.toOption.bind
      Except.toOption).isSome = true by decide +kernel)
  obtain ⟨removed, s'', huninstall⟩ := RunM.exists_yields_ok
    (show (((smokeOnly.uninstall "run").outcome { memory := [] }).1.toOption.bind
      Except.toOption).isSome = true by decide +kernel)
  obtain ⟨hnames, -, hforward⟩ := runs_as_previewed smokeOnly "run" { memory := [] } s'
  obtain ⟨-, hbackward, -⟩ := runs_as_previewed smokeOnly "run" { memory := [] } s''
  obtain ⟨u, v, forward, -, hrun⟩ := hforward hquiet hignores installed hinstall
  obtain ⟨u', v', backward, -, hrun'⟩ := hbackward removed huninstall
  exact ⟨⟨installed, s', hinstall, (hnames installed hinstall).1, u.told _, v, forward, hrun⟩,
    removed, s'', huninstall, u'.told _, v', backward, hrun'⟩

end Testbed

end MeshTestbed
