import MeshTestbed.Proofs.Testbed.Episodes

namespace MeshTestbed

namespace Verdict

variable {σ : Type} {seq : Conductor σ} {record : SequenceRecord} {stages : List Stage}
  {es : List (Episode σ)} {halt : Stop} {s : Session σ} {v : Verdict}

/-- What a verdict says of a run over these stages: of the replies to what it handed over in its
turns, of the records that they left, and of the run's cancellation. -/
def Means (seq : Conductor σ) (stages : List Stage) (es : List (Episode σ))
    (cancelled : Option String) : Verdict → Prop
  | .succeeded => es.length = stages.length ∧ ∀ e ∈ es, seq.GoesWell e.stage e.start
  | .degraded =>
    es.length = stages.length ∧
      (∀ e ∈ es, e.record.status ≠ .failed ∧ e.record.status ≠ .cancelled) ∧
        ∃ e ∈ es, seq.RunsOver e.stage e.start
  | .failed => ∃ e, es.getLast? = some e ∧ e.record.status = .failed
  | .cancelled =>
    cancelled.isSome = true ∧
      ((∃ e, es.getLast? = some e ∧ e.record.status = .cancelled) ∨
        es.length < stages.length ∧ ∀ e ∈ es, e.record.status ≠ .failed)

theorem ofSequence_of_complete (hstop : record.stop = none) :
    ofSequence record = if record.hasOverruns then degraded else succeeded := by
  simp [ofSequence, SequenceRecord.isCancelled, SequenceRecord.isComplete, hstop]

theorem ofSequence_of_stopped (hstop : record.stop = some halt) :
    ofSequence record = if halt.status = .cancelled then cancelled else failed := by
  simp [ofSequence, SequenceRecord.isCancelled, SequenceRecord.isComplete, hstop]

section

variable (hfaithful : record.Faithful stages s) (hresults : record.results = es.map (·.record))
include hfaithful hresults

theorem stop_eq_none_iff : record.stop = none ↔
    es.length = stages.length ∧ ∀ e ∈ es, e.record.status.endsSequence = false := by
  rw [hfaithful.complete, hresults, List.length_map, List.forall_mem_map]

theorem stopped_cases (hstop : record.stop = some halt) :
    (∃ e, es.getLast? = some e ∧ e.record.status.endsSequence = true ∧
      halt.status = e.record.status) ∨
    ((∀ e ∈ es, e.record.status.endsSequence = false) ∧ halt.status = .cancelled ∧
      es.length < stages.length) := by
  rcases hfaithful.stop halt hstop with
    ⟨last, hlast, hends, -, hstatus⟩ | ⟨hgoes, hstatus, stage, hstage, -⟩
  · rw [hresults, List.getLast?_map] at hlast
    obtain ⟨e, he, rfl⟩ := Option.map_eq_some_iff.1 hlast
    exact .inl ⟨e, he, hends, hstatus⟩
  · rw [hresults, List.forall_mem_map] at hgoes
    have hleft : record.results.length < stages.length := (List.getElem?_eq_some_iff.1 hstage).1
    rw [hresults, List.length_map] at hleft
    exact .inr ⟨hgoes, hstatus, hleft⟩

theorem exists_stop_of_last {e : Episode σ} (hlast : es.getLast? = some e)
    (hends : e.record.status.endsSequence = true) :
    ∃ halt, record.stop = some halt ∧ halt.status = e.record.status := by
  have hmem : e ∈ es := List.mem_of_getLast? hlast
  rcases hstop : record.stop with _ | halt
  · have hgoes := ((stop_eq_none_iff hfaithful hresults).1 hstop).2 e hmem
    simp [hgoes] at hends
  · refine ⟨halt, rfl, ?_⟩
    rcases stopped_cases hfaithful hresults hstop with ⟨e', hlast', -, hstatus⟩ | ⟨hgoes, -⟩
    · obtain rfl : e' = e := by simpa [hlast'] using hlast
      exact hstatus
    · simp [hgoes e hmem] at hends

variable (htells : ∀ e ∈ es, seq.Tells e.stage e.start e.record)
include htells

omit hfaithful in
theorem hasOverruns_iff : record.hasOverruns = true ↔ ∃ e ∈ es, seq.RunsOver e.stage e.start := by
  simp only [SequenceRecord.hasOverruns, hresults, List.any_map, List.any_eq_true,
    Function.comp_apply, decide_eq_true_eq]
  exact exists_congr fun e => and_congr_right fun he => (htells e he).timedOut_iff

theorem means_ofSequence : (ofSequence record).Means seq stages es s.cancelled := by
  rcases hstop : record.stop with _ | halt
  · obtain ⟨hall, hgoes⟩ := (stop_eq_none_iff hfaithful hresults).1 hstop
    rw [ofSequence_of_complete hstop]
    split
    · next hover =>
      exact ⟨hall, fun e he => Status.goesOn_iff.1 (hgoes e he),
        (hasOverruns_iff hresults htells).1 hover⟩
    · next hintime =>
      refine ⟨hall, fun e he => ?_⟩
      refine (htells e he).isOk_iff.1 (Status.isOk_iff.2 ⟨hgoes e he, fun htimedOut => hintime ?_⟩)
      exact (hasOverruns_iff hresults htells).2 ⟨e, he, (htells e he).timedOut_iff.1 htimedOut⟩
  · have hreason := hfaithful.reason halt hstop
    rw [ofSequence_of_stopped hstop]
    rcases stopped_cases hfaithful hresults hstop with
      ⟨e, hlast, hends, hstatus⟩ | ⟨hgoes, hstatus, hleft⟩
    · split
      · next hcancelled =>
        exact ⟨by simp [hreason hcancelled], .inl ⟨e, hlast, hstatus ▸ hcancelled⟩⟩
      · next huncancelled =>
        exact ⟨e, hlast, (Status.endsSequence_iff.1 hends).resolve_right (hstatus ▸ huncancelled)⟩
    · rw [if_pos hstatus]
      exact ⟨by simp [hreason hstatus],
        .inr ⟨hleft, fun e he => (Status.goesOn_iff.1 (hgoes e he)).1⟩⟩

theorem ofSequence_of_means (h : v.Means seq stages es s.cancelled) : ofSequence record = v := by
  cases v with
  | succeeded =>
    obtain ⟨hall, hwell⟩ := h
    have hok : ∀ e ∈ es, e.record.status.endsSequence = false ∧ e.record.status ≠ .timedOut :=
      fun e he => Status.isOk_iff.1 ((htells e he).isOk_iff.2 (hwell e he))
    have hstop := (stop_eq_none_iff hfaithful hresults).2 ⟨hall, fun e he => (hok e he).1⟩
    rw [ofSequence_of_complete hstop, if_neg]
    intro hover
    obtain ⟨e, he, hruns⟩ := (hasOverruns_iff hresults htells).1 hover
    exact (hok e he).2 ((htells e he).timedOut_iff.2 hruns)
  | degraded =>
    obtain ⟨hall, hgoes, hover⟩ := h
    have hstop := (stop_eq_none_iff hfaithful hresults).2
      ⟨hall, fun e he => Status.goesOn_iff.2 (hgoes e he)⟩
    rw [ofSequence_of_complete hstop, if_pos ((hasOverruns_iff hresults htells).2 hover)]
  | failed =>
    obtain ⟨e, hlast, hfailed⟩ := h
    obtain ⟨halt, hstop, hstatus⟩ := exists_stop_of_last hfaithful hresults hlast
      (Status.endsSequence_iff.2 (.inl hfailed))
    rw [ofSequence_of_stopped hstop, if_neg]
    simp [hstatus, hfailed]
  | cancelled =>
    obtain ⟨-, ⟨e, hlast, hcancelled⟩ | ⟨hleft, hunfailed⟩⟩ := h
    · obtain ⟨halt, hstop, hstatus⟩ := exists_stop_of_last hfaithful hresults hlast
        (Status.endsSequence_iff.2 (.inr hcancelled))
      rw [ofSequence_of_stopped hstop, if_pos (hstatus.trans hcancelled)]
    · -- A sequence that leaves a stage out was stopped, though not by a failure.
      rcases hstop : record.stop with _ | halt
      · have hall := ((stop_eq_none_iff hfaithful hresults).1 hstop).1
        omega
      · rw [ofSequence_of_stopped hstop, if_pos]
        rcases stopped_cases hfaithful hresults hstop with
          ⟨e, hlast, hends, hstatus⟩ | ⟨-, hstatus, -⟩
        · have hunfailed := hunfailed e (List.mem_of_getLast? hlast)
          exact hstatus.trans ((Status.endsSequence_iff.1 hends).resolve_left hunfailed)
        · exact hstatus

end

theorem exitCode_inj {v' : Verdict} : v.exitCode = v'.exitCode → v = v' := by
  cases v <;> cases v' <;> decide

/-- Each exit code names what the run came to, and it came to one thing only. -/
def TellsTruth (seq : Conductor σ) (exitCode : Nat) (stages : List Stage) (es : List (Episode σ))
    (cancelled : Option String) : Prop :=
  (exitCode = 0 ↔ Verdict.succeeded.Means seq stages es cancelled) ∧
  (exitCode = 2 ↔ Verdict.degraded.Means seq stages es cancelled) ∧
  (exitCode = 1 ↔ Verdict.failed.Means seq stages es cancelled) ∧
  (exitCode = 130 ↔ Verdict.cancelled.Means seq stages es cancelled) ∧
  ∃! v : Verdict, v.Means seq stages es cancelled

theorem tellsTruth_ofSequence (hfaithful : record.Faithful stages s)
    (hresults : record.results = es.map (·.record))
    (htells : ∀ e ∈ es, seq.Tells e.stage e.start e.record) :
    TellsTruth seq (ofSequence record).exitCode stages es s.cancelled := by
  have hcame := means_ofSequence hfaithful hresults htells
  have hmeans (v : Verdict) : (ofSequence record).exitCode = v.exitCode ↔
      v.Means seq stages es s.cancelled := by
    refine ⟨fun h => ?_, fun h => by rw [ofSequence_of_means hfaithful hresults htells h]⟩
    rw [← exitCode_inj h]
    exact hcame
  refine ⟨hmeans succeeded, hmeans degraded, hmeans failed, hmeans cancelled, ?_⟩
  exact ⟨_, hcame, fun _ h => (ofSequence_of_means hfaithful hresults htells h).symm⟩

end Verdict

namespace Testbed

variable {σ : Type} {t : Testbed σ} {sequence : SequenceRecord} {images : Option Inventory}
  {s s' : Session σ}

theorem Installed.faithful (h : Installed t s sequence images s') :
    sequence.Faithful (t.plan.installation t.tool) s' := by
  cases h with
  | intro hkept _ hlisted hremoved =>
    rw [Plan.installation_eq]
    exact hkept.faithful_append (hlisted ▸ Session.keepsCancellation_afterCalls) hremoved

/-- The exit code of an install or an uninstall tells what the runner replied to the commands of the
stages that were previewed, and how their waits ended. -/
theorem exitCode_tells_truth (t : Testbed σ) (runId : String) (s s' : Session σ) :
    (∀ record, (t.install runId).Yields s (.ok record) s' →
      ∃ es, t.MadeOf runId "install" (t.plan.installation t.tool) record.sequence.results s s' es ∧
        Verdict.TellsTruth t.conductor record.exitCode (t.plan.installation t.tool) es
          s'.cancelled) ∧
    (∀ record, (t.uninstall runId).Yields s (.ok record) s' →
      ∃ es, t.MadeOf runId "uninstall" (t.plan.removal t.tool) record.sequence.results s s' es ∧
        Verdict.TellsTruth t.conductor record.exitCode (t.plan.removal t.tool) es
          s'.cancelled) := by
  constructor
  · intro record h
    obtain ⟨es, hmade⟩ := exists_madeOf_of_yields_install h
    obtain ⟨u, v, -, hinstalled, hs'⟩ := installed_of_yields_install h
    refine ⟨es, hmade, ?_⟩
    rw [InstallRecord.exitCode, verdict_of_yields_install h, hs', Session.cancelled_told]
    exact Verdict.tellsTruth_ofSequence hinstalled.faithful hmade.results_eq hmade.tells
  · intro record h
    obtain ⟨es, hmade⟩ := exists_madeOf_of_yields_uninstall h
    obtain ⟨u, v, forward, -, hforward, hsame, hverdict, hs'⟩ := removed_of_yields_uninstall h
    obtain ⟨-, hcourse⟩ := Conductor.yields_run_iff.1 hforward
    refine ⟨es, hmade, ?_⟩
    rw [RemovalRecord.exitCode, hverdict, hs', Session.cancelled_told]
    refine Verdict.tellsTruth_ofSequence ?_ hmade.results_eq hmade.tells
    rw [hsame]
    exact hcourse.faithful

def interruptedSmoke : Testbed (Nat × List Reply) where
  plan := { Plan.standard with selection := ⟨false, false, true⟩ }
  runner := (Runner.ofReplies { result := .ok { stdout := "web 2/2 Running" } }).interruptedAt 5
    "signal"
  tool := {}

/-- A cluster that has a session but refuses the command of the first stage. -/
def refusing : Session (List Reply) :=
  { memory := [{ result := .ok {} },
      { result := .ok { stderr := "Forbidden", exitCode := some 1 } }] }

/-- An install whose first command is refused, one that leaves its last stage out, and an uninstall
whose wait runs out of time. -/
theorem exitCode_tells_truth_of_smoke :
    (∃ record s' es, (smokeOnly.install "run").Yields refusing (.ok record) s' ∧
      record.sequence.results = es.map (·.record) ∧ record.exitCode = 1 ∧
      Verdict.failed.Means smokeOnly.conductor (smokeOnly.plan.installation smokeOnly.tool) es
        s'.cancelled ∧
      ∃ e, es.getLast? = some e ∧ ¬ smokeOnly.conductor.Accepts e.stage e.start) ∧
    (∃ record s' es, (interruptedSmoke.install "run").Yields { memory := (0, []) } (.ok record) s' ∧
      record.sequence.results = es.map (·.record) ∧ record.exitCode = 130 ∧
      Verdict.cancelled.Means interruptedSmoke.conductor
        (interruptedSmoke.plan.installation interruptedSmoke.tool) es s'.cancelled) ∧
    ∃ record s' es, (smokeOnly.uninstall "run").Yields { memory := [] } (.ok record) s' ∧
      record.sequence.results = es.map (·.record) ∧ record.exitCode = 2 ∧
      Verdict.degraded.Means smokeOnly.conductor (smokeOnly.plan.removal smokeOnly.tool) es
        s'.cancelled := by
  let refused := smokeOnly.install "run"
  let installing := interruptedSmoke.install "run"
  let uninstalling := smokeOnly.uninstall "run"
  have hfields : ((refused.outcome refusing).1.toOption.bind Except.toOption).map
      (fun r : InstallRecord => (r.exitCode,
        r.sequence.results.getLast?.map fun r => (r.exitCode, r.tolerated))) =
      some (1, some (some 1, none)) := by decide +kernel
  have hcode : ((installing.outcome { memory := (0, []) }).1.toOption.bind Except.toOption).map
      InstallRecord.exitCode = some 130 := by decide +kernel
  have hcode' : ((uninstalling.outcome { memory := [] }).1.toOption.bind Except.toOption).map
      RemovalRecord.exitCode = some 2 := by decide +kernel
  obtain ⟨failing, s, hfailing, hrefused⟩ := RunM.exists_yields_ok_of_map hfields
  obtain ⟨installed, s', hinstall, hinterrupted⟩ := RunM.exists_yields_ok_of_map hcode
  obtain ⟨removed, s'', huninstall, hdegraded⟩ := RunM.exists_yields_ok_of_map hcode'
  obtain ⟨es, hmade, -, -, hmeans, -⟩ := (exitCode_tells_truth _ _ _ _).1 failing hfailing
  obtain ⟨es', hmade', -, -, -, hmeans', -⟩ := (exitCode_tells_truth _ _ _ _).1 installed hinstall
  obtain ⟨es'', hmade'', -, hmeans'', -⟩ := (exitCode_tells_truth _ _ _ _).2 removed huninstall
  obtain ⟨hone, hlast⟩ := Prod.mk.inj hrefused
  refine ⟨⟨failing, s, es, hfailing, hmade.results_eq, hone, hmeans.1 hone, ?_⟩,
    ⟨installed, s', es', hinstall, hmade'.results_eq, hinterrupted, hmeans'.1 hinterrupted⟩,
    removed, s'', es'', huninstall, hmade''.results_eq, hdegraded, hmeans''.1 hdegraded⟩
  -- The last record has no exit code zero and no label, which tells of the reply to its command.
  rw [hmade.results_eq, List.getLast?_map, Option.map_map] at hlast
  obtain ⟨e, he, hrejected⟩ := Option.map_eq_some_iff.1 hlast
  obtain ⟨hexit, hlabel⟩ : e.record.exitCode = some 1 ∧ e.record.tolerated = none := by
    simpa using hrejected
  refine ⟨e, he, fun haccepts => ?_⟩
  have hgood := (hmade.tells e (List.mem_of_getLast? he)).accepted_iff.2 haccepts
  simp [hexit, hlabel] at hgood

theorem verdict_eq_cancelled_iff : Verdict.ofSequence sequence = .cancelled ↔
    ∃ stop, sequence.stop = some stop ∧ stop.status = .cancelled := by
  rcases hstop : sequence.stop with _ | halt
  · rw [Verdict.ofSequence_of_complete hstop]
    split <;> simp
  · rw [Verdict.ofSequence_of_stopped hstop]
    split <;> simp_all

theorem Installed.images_eq_none_iff_of_not_smoke (h : Installed t s sequence images s')
    (hsmoke : t.plan.selection.smoke = false) :
    images = none ↔ Verdict.ofSequence sequence = .cancelled := by
  have hnone : t.plan.removed = [] := by simp [Plan.removed, Plan.smokePair?, hsmoke]
  have hkept : t.plan.installation t.tool = t.plan.kept t.tool := by
    simp [Plan.installation_eq, hnone]
  rw [verdict_eq_cancelled_iff, h.images_eq_none_iff]
  refine exists_congr fun stop => and_congr_right fun hstop => and_iff_left_of_imp fun _ => ?_
  -- Whichever stage stopped the install is one of those that it keeps.
  obtain ⟨stage, hstage, hname⟩ := h.faithful.exists_stage_of_stop hstop
  rw [hname]
  exact (Plan.isAddition_of_mem_kept (hkept ▸ hstage)).name_ne

/-- The images are missing when the run was cancelled, unless that came after the inventory. -/
theorem images_eq_none_iff_cancelled_before (t : Testbed σ) (runId : String) (s s' : Session σ)
    (record : InstallRecord) (h : (t.install runId).Yields s (.ok record) s') :
    (record.images = none ↔ record.verdict = .cancelled ∧
      ∀ stop, record.sequence.stop = some stop → stop.stage ≠ Plan.removalName) ∧
    (t.plan.selection.smoke = false → (record.images = none ↔ record.verdict = .cancelled)) := by
  obtain ⟨u, v, -, hinstalled, rfl⟩ := installed_of_yields_install h
  rw [verdict_of_yields_install h]
  refine ⟨?_, hinstalled.images_eq_none_iff_of_not_smoke⟩
  rw [verdict_eq_cancelled_iff, hinstalled.images_eq_none_iff]
  constructor
  · rintro ⟨stop, hstop, hcancelled, hname⟩
    refine ⟨⟨stop, hstop, hcancelled⟩, fun stop' hstop' => ?_⟩
    obtain rfl : stop = stop' := by simpa [hstop] using hstop'
    exact hname
  · rintro ⟨⟨stop, hstop, hcancelled⟩, hname⟩
    exact ⟨stop, hstop, hcancelled, hname stop hstop⟩

theorem images_eq_none_of_interruption :
    ∃ record s', (smokeOnly.install "run").Yields { memory := [], timer := some (2500, "signal") }
        (.ok record) s' ∧
      record.images = none ∧ record.verdict = .cancelled := by
  let s : Session (List Reply) := { memory := [], timer := some (2500, "signal") }
  have himages : ((((smokeOnly.install "run").outcome s).1.toOption.bind Except.toOption).map
      fun r : InstallRecord => r.images.isNone) = some true := by decide +kernel
  obtain ⟨record, s', hinstall, hnone⟩ := RunM.exists_yields_ok_of_map himages
  have hmissing : record.images = none := by simpa using hnone
  obtain ⟨hbefore, -⟩ := images_eq_none_iff_cancelled_before smokeOnly "run" s s' record hinstall
  exact ⟨record, s', hinstall, hmissing, (hbefore.1 hmissing).1⟩

/-- Images that were listed before a cancellation stay in the report. -/
theorem images_kept_of_late_cancellation :
    ∃ record s', (interruptedSmoke.install "run").Yields { memory := (0, []) } (.ok record) s' ∧
      record.verdict = .cancelled ∧ record.images ≠ none ∧
      ¬ (record.images = none ↔ record.verdict = .cancelled) := by
  have hrecord : ((((interruptedSmoke.install "run").outcome { memory := (0, []) }).1.toOption.bind
      Except.toOption).map fun r : InstallRecord => (r.verdict, r.images.isSome)) =
        some (.cancelled, true) := by decide +kernel
  obtain ⟨record, s', hinstall, hfields⟩ := RunM.exists_yields_ok_of_map hrecord
  obtain ⟨hverdict, himages⟩ := Prod.mk.inj hfields
  have hlisted : record.images ≠ none := by simpa [← Option.isSome_iff_ne_none] using himages
  exact ⟨record, s', hinstall, hverdict, hlisted, fun h => hlisted (h.2 hverdict)⟩

end Testbed

end MeshTestbed
