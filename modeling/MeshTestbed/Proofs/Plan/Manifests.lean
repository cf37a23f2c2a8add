import MeshTestbed.Config.Planning
import MeshTestbed.Proofs.Plan.Removal

namespace MeshTestbed

namespace Stage

def appliedFile? (stage : Stage) : Option String :=
  match stage.action with
  | .applyManifest _ (.file path) => some path
  | _ => none

/-- The manifest that the stage applies or deletes is a file. -/
def FindsManifest (isFile : String → Bool) (stage : Stage) : Prop :=
  ∀ manifest, stage.action.manifest? = some manifest →
    ∃ path, manifest = .file path ∧ isFile path = true

variable {stage undoing : Stage} {isFile : String → Bool}

theorem FindsManifest.undo (h : stage.FindsManifest isFile) (hundo : stage.undo? = some undoing) :
    undoing.FindsManifest isFile := by
  intro manifest hmanifest
  have hreverses := reverses_of_undo hundo
  apply h
  generalize stage.action = creation at hreverses
  generalize undoing.action = deletion at hreverses hmanifest
  rcases hreverses with ⟨ns, applied⟩ | ⟨name⟩
  · exact hmanifest
  · cases hmanifest

end Stage

namespace Plan

variable {p : Plan} {tool : ClusterTool} {stage : Stage} {isFile : String → Bool}

theorem appliedFiles_operatorSetup :
    (p.operatorSetup tool).filterMap Stage.appliedFile? =
      match p.operators.source with
      | .subscriptions s => s.inOrder.map (·.2)
      | .manifest path => [path] := by
  have hgrants : (p.operators.grants.map (grantStage tool)).filterMap Stage.appliedFile? = [] := by
    rw [List.filterMap_map, List.filterMap_eq_nil_iff]
    exact fun g _ => rfl
  -- The wait that the last of them gets leaves its manifest as it is.
  have hlast : p.operatorStages.map Stage.appliedFile? =
      p.operatorApplies.map Stage.appliedFile? := by
    apply map_mapLast
    exact fun _ => rfl
  have hfiles : p.operatorStages.filterMap Stage.appliedFile? =
      (p.operatorApplies.map Stage.appliedFile?).filterMap id := by
    rw [← hlast, List.filterMap_map]
    rfl
  rw [operatorSetup_eq, List.filterMap_append, hgrants, List.nil_append, hfiles]
  unfold operatorApplies
  cases p.operators.source <;> rfl

theorem appliedFiles_lasting :
    (p.lasting tool).filterMap Stage.appliedFile? =
      (if p.selection.operators then
        match p.operators.source with
        | .subscriptions s => s.inOrder.map (·.2)
        | .manifest path => [path]
      else []) ++
        if p.selection.controlPlane then [p.controlPlane.manifest, p.memberRoll.manifest]
        else [] := by
  have hworkloads : (p.workloads.map p.namespaceCreation).filterMap Stage.appliedFile? = [] := by
    rw [List.filterMap_map, List.filterMap_eq_nil_iff]
    exact fun ns _ => rfl
  unfold lasting
  rw [List.filterMap_append, List.filterMap_append, List.filterMap_append, hworkloads,
    List.append_nil, List.append_assoc]
  congr 1
  · split
    · exact appliedFiles_operatorSetup
    · rfl
  · split <;> rfl

theorem appliedFiles_smoke :
    (p.smokePair?.map (·.1)).toList.filterMap Stage.appliedFile? ++
      p.removed.filterMap Stage.appliedFile? =
        if p.selection.smoke then [p.smoke.manifest] else [] := by
  unfold removed smokePair?
  split <;> rfl

/-- The files that are looked for are those that an install applies, in the same order. -/
theorem manifestPaths_eq :
    p.manifestPaths = (p.installation tool).filterMap Stage.appliedFile? := by
  rw [installation_eq, kept, List.filterMap_append, List.filterMap_append, List.append_assoc,
    appliedFiles_smoke, appliedFiles_lasting]
  rfl

theorem exists_appliedFile_of_makes {manifest : Manifest} (h : p.Makes tool stage)
    (hmanifest : stage.action.manifest? = some manifest) :
    ∃ path, manifest = .file path ∧ stage.appliedFile? = some path := by
  induction h with
  | grant | namespaceCreation => cases hmanifest
  | settling _ _ _ ih => exact ih hmanifest
  | subscription | operator | controlPlane | memberRoll | smoke =>
    cases hmanifest
    exact ⟨_, rfl, rfl⟩

theorem manifest_of_appliedFile {path : String} (h : stage.appliedFile? = some path) :
    stage.action.manifest? = some (.file path) := by
  unfold Stage.appliedFile? at h
  split at h
  · next ns applied haction =>
    cases h
    rw [haction]
    rfl
  · cases h

theorem findsManifest_of_mem_kept (hfiles : ∀ path ∈ p.manifestPaths, isFile path = true)
    (h : stage ∈ p.kept tool) : stage.FindsManifest isFile := by
  intro manifest hmanifest
  obtain ⟨path, hfile, hpath⟩ := exists_appliedFile_of_makes (makes_of_mem_kept h) hmanifest
  have hmem : path ∈ p.manifestPaths := by
    rw [manifestPaths_eq, List.mem_filterMap]
    exact ⟨stage, installation_eq ▸ List.mem_append_left _ h, hpath⟩
  exact ⟨path, hfile, hfiles path hmem⟩

theorem exists_mem_kept_of_mem_removed (h : stage ∈ p.removed) :
    ∃ verify ∈ p.kept tool, verify.undo? = some stage := by
  obtain ⟨pair, hpair, rfl⟩ := Option.map_eq_some_iff.1 (Option.mem_toList.1 h)
  refine ⟨pair.1, List.mem_append_right _ ?_, ?_⟩
  · simp [hpair]
  · rw [(eq_of_smokePair hpair).1]
    exact (eq_of_smokePair hpair).2

theorem manifest_of_mem_cleanup (h : stage ∈ p.cleanup) : stage.action.manifest? = none := by
  unfold cleanup at h
  split at h
  · obtain rfl := List.mem_singleton.1 h
    rfl
  · cases h

/-- Whatever is applied or deleted, it is enough that the files to apply are there. -/
theorem findManifests_iff :
    (∀ stage ∈ p.installation tool ++ p.removal tool, stage.FindsManifest isFile) ↔
      ∀ path ∈ p.manifestPaths, isFile path = true := by
  constructor
  · intro hstages path hpath
    rw [manifestPaths_eq] at hpath
    obtain ⟨stage, hmem, happlied⟩ := List.mem_filterMap.1 hpath
    obtain ⟨found, hfound, hfile⟩ := hstages stage (List.mem_append_left _ hmem) _
      (manifest_of_appliedFile happlied)
    cases hfound
    exact hfile
  · intro hfiles stage hmem
    rcases List.mem_append.1 hmem with hinstalled | hremoved
    · rw [installation_eq] at hinstalled
      rcases List.mem_append.1 hinstalled with hkept | hteardown
      · exact findsManifest_of_mem_kept hfiles hkept
      · obtain ⟨verify, hverify, hundo⟩ : ∃ verify ∈ p.kept tool, verify.undo? = some stage :=
          exists_mem_kept_of_mem_removed hteardown
        have hfinds : verify.FindsManifest isFile := findsManifest_of_mem_kept hfiles hverify
        exact hfinds.undo hundo
    · rcases List.mem_append.1 hremoved with hundone | hcleanup
      · obtain ⟨undone, hlasting, hundo⟩ := mem_undoing_iff.1 hundone
        have hkept : undone ∈ p.kept tool := List.mem_append_left _ hlasting
        exact (findsManifest_of_mem_kept hfiles hkept).undo hundo
      · intro manifest hmanifest
        rw [manifest_of_mem_cleanup hcleanup] at hmanifest
        cases hmanifest

/-- The manifests of a plan that are not there. -/
def missing (isFile : String → Bool) (p : Plan) : List String :=
  p.manifestPaths.filter fun path => !isFile path

theorem missing_eq_nil_iff :
    p.missing isFile = [] ↔ ∀ path ∈ p.manifestPaths, isFile path = true := by
  simp [missing, List.filter_eq_nil_iff]

end Plan

namespace Config

variable {c : Config} {p : Plan} {isFile : String → Bool} {e : Misconfiguration}

theorem checkedPlan_of_error (h : c.plan = .error e) : c.checkedPlan isFile = .error e := by
  unfold checkedPlan
  rw [h]
  rfl

theorem checkedPlan_of_ok (h : c.plan = .ok p) : c.checkedPlan isFile =
    if p.missing isFile = [] then .ok p else .error (.missingManifests (p.missing isFile)) := by
  unfold checkedPlan Plan.missing
  rw [h]
  simp only [bind, Except.bind, List.isEmpty_iff]
  rfl

theorem checkedPlan_eq_ok_iff :
    c.checkedPlan isFile = .ok p ↔ c.plan = .ok p ∧ p.missing isFile = [] := by
  rcases hplan : c.plan with e | q
  · simp [checkedPlan_of_error hplan]
  · rw [checkedPlan_of_ok hplan]
    split
    · next hnone =>
      constructor
      · rintro ⟨⟩
        exact ⟨rfl, hnone⟩
      · exact fun h => h.1
    · next hsome =>
      constructor
      · rintro ⟨⟩
      · rintro ⟨⟨⟩, hnone⟩
        exact absurd hnone hsome

theorem checkedPlan_eq_error_iff :
    c.checkedPlan isFile = .error e ↔ c.plan = .error e ∨
      ∃ p, c.plan = .ok p ∧ p.missing isFile ≠ [] ∧ e = .missingManifests (p.missing isFile) := by
  rcases hplan : c.plan with e' | q
  · simp [checkedPlan_of_error hplan]
  · rw [checkedPlan_of_ok hplan]
    split
    · next hnone => simp [hnone]
    · next hsome =>
      constructor
      · rintro ⟨⟩
        exact .inr ⟨q, rfl, hsome, rfl⟩
      · rintro (⟨⟨⟩⟩ | ⟨p, ⟨⟩, -, rfl⟩)
        rfl

/-- The files that are looked for are those that the stages of an install apply, in the same order.
A configuration comes to a plan exactly if it does so without a look at the files and every stage of
an install or an uninstall finds its manifest. Otherwise the error is that of the plan, or it names
the files that are missing, in the order in which they would be applied. -/
theorem checked_manifests_are_applied (c : Config) (isFile : String → Bool) (tool : ClusterTool) :
    (∀ p : Plan, p.manifestPaths = (p.installation tool).filterMap Stage.appliedFile?) ∧
    (∀ p, c.checkedPlan isFile = .ok p ↔ c.plan = .ok p ∧
      ∀ stage ∈ p.installation tool ++ p.removal tool, stage.FindsManifest isFile) ∧
    ∀ e, c.checkedPlan isFile = .error e ↔ c.plan = .error e ∨
      ∃ p, c.plan = .ok p ∧ e.subjects ≠ [] ∧ e = .missingManifests e.subjects ∧
        e.subjects = ((p.installation tool).filterMap Stage.appliedFile?).filter
          fun path => !isFile path := by
  refine ⟨fun p => Plan.manifestPaths_eq, fun p => ?_, fun e => ?_⟩
  · rw [checkedPlan_eq_ok_iff, Plan.missing_eq_nil_iff, Plan.findManifests_iff]
  · simp only [checkedPlan_eq_error_iff, ← Plan.manifestPaths_eq]
    refine or_congr_right (exists_congr fun p => and_congr_right fun _ => ?_)
    constructor
    · rintro ⟨hsome, rfl⟩
      exact ⟨hsome, rfl, rfl⟩
    · rintro ⟨hsome, hmissing, hsubjects⟩
      change e.subjects = p.missing isFile at hsubjects
      exact hsubjects ▸ ⟨hsome, hmissing⟩

end Config

end MeshTestbed
