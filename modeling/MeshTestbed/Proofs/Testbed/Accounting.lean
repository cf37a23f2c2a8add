import MeshTestbed.Proofs.Sequence.Report
import MeshTestbed.Proofs.Testbed.Install

namespace MeshTestbed

namespace Plan

variable {p : Plan} {tool : ClusterTool} {stage : Stage}

def removalName : String := "delete-smoke-workload"

theorem name_of_mem_removed (h : stage ∈ p.removed) : stage.name = removalName := by
  obtain ⟨action, -, rfl⟩ := Option.map_eq_some_iff.1 (undo_of_mem_removed h)
  have hname : p.smokeVerify.name = "apply-smoke-workload" := rfl
  dsimp only
  rw [hname]
  decide +kernel

/-- Stages that add something are named by what they do, which is not to delete. -/
def IsAddition (stage : Stage) : Prop := stage.name.toList.head? ≠ some 'd'

theorem IsAddition.name_ne (h : IsAddition stage) : stage.name ≠ removalName := by
  intro hname
  rw [IsAddition, hname] at h
  exact h (by decide)

theorem Makes.isAddition (h : p.Makes tool stage) : IsAddition stage := by
  induction h with
  | grant g =>
    change ("grant-anyuid-" ++ g.ns ++ "-" ++ g.serviceAccount).toList.head? ≠ _
    simp
  | subscription role path =>
    change ("apply-subscription-" ++ role).toList.head? ≠ _
    simp
  | operator ns path =>
    change "apply-operator".toList.head? ≠ _
    decide
  | settling _ _ _ ih => exact ih
  | namespaceCreation ns =>
    change ("create-namespace-" ++ ns).toList.head? ≠ _
    simp
  | controlPlane =>
    change "apply-control-plane".toList.head? ≠ _
    decide
  | memberRoll =>
    change "apply-member-roll".toList.head? ≠ _
    decide
  | smoke =>
    change "apply-smoke-workload".toList.head? ≠ _
    decide

theorem isAddition_of_mem_kept (h : stage ∈ p.kept tool) : IsAddition stage :=
  (makes_of_mem_kept h).isAddition

end Plan

namespace Testbed

variable {σ : Type} {t : Testbed σ} {sequence : SequenceRecord} {images : Option Inventory}
  {s s' : Session σ}

/-- The stages of an install with their records, the one that removes the smoke workload left out.
-/
def keptPairs (t : Testbed σ) (rs : List StageRecord) : List (Stage × StageRecord) :=
  ((t.plan.installation t.tool).zip rs).filter fun p => p.2.name != Plan.removalName

def removalPairs (t : Testbed σ) (rs : List StageRecord) : List (Stage × StageRecord) :=
  ((t.plan.installation t.tool).zip rs).filter fun p => p.2.name == Plan.removalName

theorem pairs_of_zip_eq {rs : List StageRecord} {xs ys : List (Stage × StageRecord)}
    (hpairs : (t.plan.installation t.tool).zip rs = xs ++ ys)
    (hxs : ∀ p ∈ xs, p.2.name ≠ Plan.removalName) (hys : ∀ p ∈ ys, p.2.name = Plan.removalName) :
    t.keptPairs rs = xs ∧ t.removalPairs rs = ys := by
  unfold keptPairs removalPairs
  rw [hpairs, List.filter_append, List.filter_append]
  have hremoved : xs.filter (fun p => p.2.name == Plan.removalName) = [] :=
    List.filter_eq_nil_iff.2 fun p hp => by simpa using hxs p hp
  have hkept : ys.filter (fun p => p.2.name != Plan.removalName) = [] :=
    List.filter_eq_nil_iff.2 fun p hp => by simpa using hys p hp
  rw [hremoved, hkept, List.filter_eq_self.2 fun p hp => by simpa using hxs p hp,
    List.filter_eq_self.2 fun p hp => by simpa using hys p hp]
  exact ⟨List.append_nil _, List.nil_append _⟩

theorem Installed.calls_eq (h : Installed t s sequence images s') :
    s'.calls = s.calls ++ t.conductor.commandsFor (t.keptPairs sequence.results) ++
      images.toList.flatMap t.listingCalls ++
      t.conductor.commandsFor (t.removalPairs sequence.results) := by
  cases h with
  | @intro rs₁ rs₂ stop₁ stop₂ _ u v _ hkept himages hlisted hremoved =>
    have hzip := hkept.zip_append hremoved
    rw [← Plan.installation_eq] at hzip
    -- The name of a record tells on which side of the inventory it is.
    have hxs : ∀ p ∈ (t.plan.kept t.tool).zip rs₁, p.2.name ≠ Plan.removalName := by
      intro p hp
      rw [hkept.name_of_mem_zip hp]
      exact (Plan.isAddition_of_mem_kept (List.of_mem_zip hp).1).name_ne
    have hys : ∀ p ∈ t.plan.removed.zip rs₂, p.2.name = Plan.removalName := by
      intro p hp
      rw [hremoved.name_of_mem_zip hp]
      exact Plan.name_of_mem_removed (List.of_mem_zip hp).1
    obtain ⟨hpairs₁, hpairs₂⟩ := pairs_of_zip_eq hzip hxs hys
    rw [hpairs₁, hpairs₂, hremoved.issued.calls_eq, hlisted,
      Session.issued_afterCalls.calls_eq, hkept.issued.calls_eq]

theorem Installed.images_eq_none_iff (h : Installed t s sequence images s') :
    images = none ↔ ∃ stop, sequence.stop = some stop ∧ stop.status = .cancelled ∧
      stop.stage ≠ Plan.removalName := by
  cases h with
  | @intro rs₁ rs₂ stop₁ stop₂ _ u v _ hkept himages hlisted hremoved =>
    rw [himages]
    -- A stop before the inventory is at a stage that is kept, a later one is not.
    rcases stop₁ with _ | halt
    · refine ⟨by simp [SequenceRecord.isCancelled], ?_⟩
      rintro ⟨halt, hhalt, -, hname⟩
      obtain rfl : stop₂ = some halt := by simpa using hhalt
      obtain ⟨stage, hstage, hhalted⟩ := Conductor.Course.exists_stage_of_stop hremoved
      exact absurd (hhalted.trans (Plan.name_of_mem_removed hstage)) hname
    · obtain ⟨stage, hstage, hhalted⟩ := hkept.exists_stage_of_stop
      have hname : halt.stage ≠ Plan.removalName := by
        rw [hhalted]
        exact (Plan.isAddition_of_mem_kept hstage).name_ne
      simp [SequenceRecord.isCancelled, hname]

/-- The records of a sequence account for its commands, and those of an install do too, apart from
the probe of the session and the inventory. -/
theorem records_account_for_calls (σ : Type) :
    (∀ (seq : Conductor σ) (direction : Direction) (stages : List Stage) (s : Session σ)
      (record : SequenceRecord) (s' : Session σ),
      (seq.run direction stages).Yields s record s' →
        record.results.length ≤ stages.length ∧
        s'.calls = s.calls ++ seq.commandsFor (stages.zip record.results)) ∧
    (∀ (t : Testbed σ) (runId : String) (s : Session σ) (record : InstallRecord)
      (s' : Session σ), (t.install runId).Yields s (.ok record) s' →
        record.sequence.results.length ≤ (t.plan.installation t.tool).length ∧
        s'.calls = s.calls ++ [⟨t.tool.sessionCheck, none⟩] ++
          t.conductor.commandsFor (t.keptPairs record.sequence.results) ++
          record.images.toList.flatMap t.listingCalls ++
          t.conductor.commandsFor (t.removalPairs record.sequence.results) ∧
        (record.images = none ↔ ∃ stop, record.sequence.stop = some stop ∧
          stop.status = .cancelled ∧ stop.stage ≠ Plan.removalName)) := by
  constructor
  · intro seq direction stages s record s' h
    obtain ⟨-, hcourse⟩ := Conductor.yields_run_iff.1 h
    exact ⟨by simpa using hcourse.names_prefix.length_le, hcourse.issued.calls_eq⟩
  · intro t runId s record s' h
    obtain ⟨u, v, hentered, hinstalled, rfl⟩ := installed_of_yields_install h
    obtain ⟨rfl, -⟩ := yields_enter hentered
    have hlength := hinstalled.names_prefix.length_le
    simp only [SequenceRecord.stageNames, List.length_map] at hlength
    refine ⟨hlength, ?_, hinstalled.images_eq_none_iff⟩
    rw [Session.calls_told, hinstalled.calls_eq, Session.calls_told, Session.calls_call]

/-- The smoke workload alone, in a cluster whose commands take a second. -/
def smokeOnly : Testbed (List Reply) where
  plan := { Plan.standard with selection := ⟨false, false, true⟩ }
  runner := .ofReplies { result := .ok { stdout := "web 2/2 Running" }, duration := 1000 }
  tool := {}

theorem records_account_for_calls_of_smoke :
    (∃ record s', (Conductor.rehearsal.run .forward Conductor.webStages).Yields
        { memory := [], timer := some (12000, "signal") } record s' ∧
      s'.calls = Conductor.rehearsal.commandsFor (Conductor.webStages.zip record.results)) ∧
    ∃ record s', (smokeOnly.install "run").Yields { memory := [] } (.ok record) s' ∧
      s'.calls = [⟨smokeOnly.tool.sessionCheck, none⟩] ++
        smokeOnly.conductor.commandsFor (smokeOnly.keptPairs record.sequence.results) ++
        record.images.toList.flatMap smokeOnly.listingCalls ++
        smokeOnly.conductor.commandsFor (smokeOnly.removalPairs record.sequence.results) := by
  let s : Session (List Reply) := { memory := [], timer := some (12000, "signal") }
  obtain ⟨sequence, u, hsequence⟩ := RunM.exists_yields
    (show ((Conductor.rehearsal.run .forward Conductor.webStages).outcome s).1.isOk = true by
      decide +kernel)
  obtain ⟨record, v, hinstall⟩ := RunM.exists_yields_ok
    (show (((smokeOnly.install "run").outcome { memory := [] }).1.toOption.bind
      Except.toOption).isSome = true by decide +kernel)
  exact ⟨⟨sequence, u, hsequence, ((records_account_for_calls _).1 _ _ _ _ _ _ hsequence).2⟩,
    record, v, hinstall, ((records_account_for_calls _).2 _ _ _ _ _ hinstall).2.1⟩

end Testbed

end MeshTestbed
