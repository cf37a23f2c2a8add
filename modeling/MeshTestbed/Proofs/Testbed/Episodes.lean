import MeshTestbed.Proofs.Sequence.Status
import MeshTestbed.Proofs.Testbed.Preview

namespace MeshTestbed

/-- The turn of a stage in a run: the session in which it starts, and the record that it leaves. -/
structure Episode (σ : Type) where
  stage : Stage
  start : Session σ
  record : StageRecord

namespace Conductor

variable {σ : Type} {seq : Conductor σ} {stages xs ys : List Stage} {rs : List StageRecord}
  {es later : List (Episode σ)} {stop : Option Stop} {s s' s'' : Session σ}

/-- Stages are performed one after the other, each in the session that the one before left. Only
commands of the inventory may come in between. -/
inductive Performs (seq : Conductor σ) : Session σ → List (Episode σ) → Session σ → Prop where
  | done (s : Session σ) : Performs seq s [] s
  | turn {stage : Stage} {s t s' : Session σ} {r : StageRecord} {es : List (Episode σ)}
    (hperform : (seq.perform stage).Yields s r t) (hrest : Performs seq t es s') :
    Performs seq s (⟨stage, s, r⟩ :: es) s'
  | listing {c : Call} {s s' : Session σ} {es : List (Episode σ)}
    (hlisting : seq.tool.IsListing c) (hrest : Performs seq (s.call seq.runner c).2 es s') :
    Performs seq s es s'

namespace Performs

theorem append (h : Performs seq s es s') (hlater : Performs seq s' later s'') :
    Performs seq s (es ++ later) s'' := by
  induction h with
  | done => exact hlater
  | turn hperform _ ih => exact .turn hperform (ih hlater)
  | listing hlisting _ ih => exact .listing hlisting (ih hlater)

theorem afterCalls {listing : List Call} (hlisting : ∀ c ∈ listing, seq.tool.IsListing c)
    (h : Performs seq (s.afterCalls seq.runner listing) es s') : Performs seq s es s' := by
  induction listing generalizing s with
  | nil => exact h
  | cons c listing ih =>
    obtain ⟨hc, hlisting⟩ := List.forall_mem_cons.1 hlisting
    exact .listing hc (ih hlisting h)

theorem tells (h : Performs seq s es s') : ∀ e ∈ es, seq.Tells e.stage e.start e.record := by
  induction h with
  | done => simp
  | turn hperform _ ih => exact List.forall_mem_cons.2 ⟨tells_of_yields_perform hperform, ih⟩
  | listing _ _ ih => exact ih

theorem calls_prefix (h : Performs seq s es s') : s.calls <+: s'.calls := by
  induction h with
  | done => exact List.prefix_rfl
  | turn hperform _ ih =>
    rw [(issued_of_yields_perform hperform).calls_eq] at ih
    exact (List.prefix_append _ _).trans ih
  | listing _ _ ih =>
    rw [Session.calls_call] at ih
    exact (List.prefix_append _ _).trans ih

theorem handed (h : Performs seq s es s') :
    ∀ e ∈ es, e.start.calls ++ [e.stage.action.call seq.tool] <+: s'.calls := by
  induction h with
  | done => simp
  | @turn stage s t s' r es hperform hrest ih =>
    refine List.forall_mem_cons.2 ⟨?_, ih⟩
    -- The command is the first that the turn hands over, and what follows only adds to the calls.
    have hcalls : t.calls = s.calls ++ stage.action.call seq.tool :: _ :=
      (issued_of_yields_perform hperform).calls_eq
    refine List.IsPrefix.trans ?_ hrest.calls_prefix
    rw [hcalls]
    exact ⟨_, by simp; rfl⟩
  | listing _ _ ih => exact ih

end Performs

theorem Course.exists_performs (h : Course seq stages s rs stop s') :
    ∃ es, seq.Performs s es s' ∧ es.map (·.record) = rs ∧ es.map (·.stage) <+: stages ∧
      (stop = none → es.map (·.stage) = stages) := by
  induction h with
  | done s => exact ⟨[], .done s, rfl, List.prefix_rfl, fun _ => rfl⟩
  | preempted => exact ⟨[], .done _, rfl, List.nil_prefix, by simp⟩
  | halted rest _ hperform =>
    exact ⟨[⟨_, _, _⟩], .turn hperform (.done _), rfl, by simp, by simp⟩
  | next _ hperform _ _ ih =>
    obtain ⟨es, hperforms, hrecords, hprefix, hcomplete⟩ := ih
    exact ⟨⟨_, _, _⟩ :: es, .turn hperform hperforms, by simp [hrecords], by simpa using hprefix,
      by simpa using hcomplete⟩

theorem Continues.exists_performs {earlier : Option Stop}
    (h : Continues seq stages earlier s rs stop s') :
    ∃ es, seq.Performs s es s' ∧ es.map (·.record) = rs ∧ es.map (·.stage) <+: stages ∧
      (earlier.isSome = true → es = []) := by
  cases earlier with
  | none =>
    obtain ⟨es, hperforms, hrecords, hprefix, -⟩ := Course.exists_performs h
    exact ⟨es, hperforms, hrecords, hprefix, by simp⟩
  | some =>
    obtain ⟨rfl, -, rfl⟩ := h
    exact ⟨[], .done _, rfl, List.nil_prefix, fun _ => rfl⟩

end Conductor

namespace Testbed

variable {σ : Type} {t : Testbed σ} {sequence : SequenceRecord} {images : Option Inventory}
  {s s' : Session σ}

/-- A run from `s` to `s'` is made of these turns: it begins with the probe, performs stages of the
list from the first on, hands over their commands as it does so, and their records are its results.
Each of them tells what the runner replied. -/
structure MadeOf (t : Testbed σ) (runId operation : String) (stages : List Stage)
    (rs : List StageRecord) (s s' : Session σ) (es : List (Episode σ)) : Prop where
  stages_prefix : es.map (·.stage) <+: stages
  results_eq : rs = es.map (·.record)
  performs : ∃ v verdict,
    t.conductor.Performs ((s.call t.runner t.probe).2.told (.runStarted runId operation)) es v ∧
      s' = v.told (.runFinished runId verdict)
  handed : ∀ e ∈ es, e.start.calls ++ [e.stage.action.call t.tool] <+: s'.calls
  tells : ∀ e ∈ es, t.conductor.Tells e.stage e.start e.record

variable {runId operation verdict : String} {stages : List Stage} {es : List (Episode σ)}
  {u v : Session σ}

theorem madeOf_of_performs (hentered : (t.enter stages).Yields s (.ok ()) u)
    (hperforms : t.conductor.Performs (u.told (.runStarted runId operation)) es v)
    (hstages : es.map (·.stage) <+: stages) :
    t.MadeOf runId operation stages (es.map (·.record)) s (v.told (.runFinished runId verdict))
      es := by
  obtain ⟨rfl, -⟩ := yields_enter hentered
  exact ⟨hstages, rfl, ⟨v, verdict, hperforms, rfl⟩, hperforms.handed, hperforms.tells⟩

theorem Installed.exists_performs (h : Installed t s sequence images s') :
    ∃ es, t.conductor.Performs s es s' ∧ es.map (·.record) = sequence.results ∧
      es.map (·.stage) <+: t.plan.installation t.tool := by
  cases h with
  | @intro rs₁ rs₂ stop₁ stop₂ _ u v _ hkept _ hlisted hremoved =>
    obtain ⟨es, hperforms, rfl, hprefix, hcomplete⟩ := hkept.exists_performs
    obtain ⟨later, hlater, rfl, hlaterPrefix, hnone⟩ := hremoved.exists_performs
    refine ⟨es ++ later, ?_, by simp, ?_⟩
    · refine hperforms.append (.afterCalls (fun c hc => ?_) (hlisted ▸ hlater))
      obtain ⟨inventory, -, hcall⟩ := List.mem_flatMap.1 hc
      exact isListing_of_mem_listingCalls hcall
    · rw [List.map_append, Plan.installation_eq]
      -- The workload is removed only after a sequence that was not stopped, so nothing is skipped.
      rcases stop₁ with _ | halt
      · rw [hcomplete rfl, List.prefix_append_right_inj]
        exact hlaterPrefix
      · rw [hnone rfl, List.map_nil, List.append_nil]
        exact hprefix.trans (List.prefix_append _ _)

theorem exists_madeOf_of_yields_install {record : InstallRecord}
    (h : (t.install runId).Yields s (.ok record) s') :
    ∃ es, t.MadeOf runId "install" (t.plan.installation t.tool) record.sequence.results s s'
      es := by
  obtain ⟨u, v, hentered, hinstalled, rfl⟩ := installed_of_yields_install h
  obtain ⟨es, hperforms, hrecords, hstages⟩ := hinstalled.exists_performs
  exact ⟨es, hrecords ▸ madeOf_of_performs hentered hperforms hstages⟩

theorem exists_madeOf_of_yields_uninstall {record : RemovalRecord}
    (h : (t.uninstall runId).Yields s (.ok record) s') :
    ∃ es, t.MadeOf runId "uninstall" (t.plan.removal t.tool) record.sequence.results s s' es := by
  obtain ⟨u, v, forward, hentered, hforward, hsame, -, rfl⟩ := removed_of_yields_uninstall h
  obtain ⟨-, hcourse⟩ := Conductor.yields_run_iff.1 hforward
  obtain ⟨es, hperforms, hrecords, hstages, -⟩ := hcourse.exists_performs
  have hresults : es.map (·.record) = record.sequence.results := by rw [hrecords, hsame]
  exact ⟨es, hresults ▸ madeOf_of_performs hentered hperforms hstages⟩

end Testbed

end MeshTestbed
