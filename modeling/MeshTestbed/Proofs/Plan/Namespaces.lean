import MeshTestbed.Proofs.Plan.Naming
import MeshTestbed.Proofs.Plan.Selection

namespace MeshTestbed

namespace Stage

variable {ns : String} {stage : Stage} {stages before after before' after' : List Stage}

/-- The namespace into which the stage applies its manifest. -/
def appliesInto? (stage : Stage) : Option String :=
  match stage.action with
  | .applyManifest ns _ => ns
  | _ => none

def creates (ns : String) (stage : Stage) : Bool := stage.action = .createNamespace ns

theorem before_eq_of_count (hcount : stages.count stage = 1) (h : stages = before ++ stage :: after)
    (h' : stages = before' ++ stage :: after') : before = before' := by
  have habsent : stage ∉ before ∧ stage ∉ after := by
    rw [h, List.count_append, List.count_cons_self] at hcount
    exact ⟨List.count_eq_zero.1 (by omega), List.count_eq_zero.1 (by omega)⟩
  exact ((List.append_cons_inj_of_notMem habsent.1 habsent.2).1 (h.symm.trans h')).1

end Stage

namespace Plan

open Stage (creates)

variable {p : Plan} {tool : ClusterTool} {stage : Stage} {ns : String} {before after : List Stage}

theorem countP_creates_operatorSetup : (p.operatorSetup tool).countP (creates ns) = 0 := by
  rw [List.countP_eq_zero, operatorSetup_eq]
  intro stage hmem
  rcases List.mem_append.1 hmem with hgrant | happlied
  · obtain ⟨g, -, rfl⟩ := List.mem_map.1 hgrant
    simp [creates, grantStage, Stage.external]
  · obtain ⟨applied, happlied, hstage⟩ := mem_of_mem_mapLast happlied
    have haction : ∃ ns manifest, applied.action = .applyManifest ns manifest := by
      unfold operatorApplies at happlied
      split at happlied
      · obtain ⟨-, -, rfl⟩ := List.mem_map.1 happlied
        exact ⟨_, _, rfl⟩
      · obtain rfl := List.mem_singleton.1 happlied
        exact ⟨_, _, rfl⟩
    obtain ⟨ns', manifest, haction⟩ := haction
    rcases hstage with rfl | rfl
    · simp [creates, haction]
    · simp [creates, Stage.awaiting, haction]

theorem countP_creates_namespaceCreation {namespaces : List String} :
    (namespaces.map p.namespaceCreation).countP (creates ns) = namespaces.count ns := by
  rw [List.countP_map, List.count]
  refine List.countP_congr fun other _ => ?_
  rw [beq_iff_eq]
  change decide (Action.createNamespace other = .createNamespace ns) = true ↔ other = ns
  rw [decide_eq_true_iff, Action.createNamespace.injEq]

theorem countP_creates_singleton {other : String} :
    [p.namespaceCreation other].countP (creates ns) = [other].count ns :=
  @countP_creates_namespaceCreation p ns [other]

theorem countP_creates_apply {stages : List Stage}
    (h : ∀ stage ∈ stages, stage.appliesInto?.isSome = true) : stages.countP (creates ns) = 0 := by
  refine List.countP_eq_zero.2 fun stage hmem => ?_
  have happlies := h stage hmem
  unfold Stage.appliesInto? at happlies
  unfold creates
  split at happlies
  · next haction => simp [haction]
  · cases happlies

theorem countP_creates_lasting :
    (p.lasting tool).countP (creates ns) = p.deletedNamespaces.count ns := by
  have hcontrolPlane : [p.controlPlaneApply].countP (creates ns) = 0 :=
    countP_creates_apply (List.forall_mem_singleton.2 rfl)
  have hmemberRoll : [p.memberRollApply].countP (creates ns) = 0 :=
    countP_creates_apply (List.forall_mem_singleton.2 rfl)
  have hcreated : [p.namespaceCreation p.controlPlane.ns, p.controlPlaneApply].countP (creates ns) =
      [p.controlPlane.ns].count ns := by
    rw [← List.singleton_append, List.countP_append, countP_creates_singleton, hcontrolPlane]
    rfl
  unfold lasting deletedNamespaces
  simp only [List.countP_append, countP_creates_namespaceCreation, List.count_append]
  cases p.selection.operators <;> cases p.selection.controlPlane
  all_goals
    simp only [Bool.false_eq_true, if_true, if_false, List.countP_nil, List.count_nil,
      countP_creates_operatorSetup, hcreated, hmemberRoll]
    omega

theorem mem_workloads : ns ∈ p.workloads ↔ ns ≠ p.controlPlane.ns ∧
    (p.selection.controlPlane = true ∧ ns ∈ p.members.toList ∨
      p.selection.smoke = true ∧ ns = p.smoke.ns) := by
  unfold workloads
  cases p.selection.controlPlane <;> cases p.selection.smoke
  all_goals
    simp [NameSet.erase, NameSet.insert, NameSet.empty, NameSet.mem_insertSorted, or_comm, and_comm]

/-- The smoke workload's namespace counts as the control plane's, and nobody creates that. -/
def losesNamespace (p : Plan) : Bool := !p.selection.controlPlane && p.sharesNamespace

theorem controlPlane_mem_deletedNamespaces (h : p.selection.controlPlane = true) :
    p.controlPlane.ns ∈ p.deletedNamespaces := by
  simp [deletedNamespaces, h]

theorem smoke_mem_deletedNamespaces_iff (h : p.selection.smoke = true) :
    p.smoke.ns ∈ p.deletedNamespaces ↔ p.losesNamespace = false := by
  unfold deletedNamespaces losesNamespace sharesNamespace
  rw [List.mem_append, mem_workloads]
  by_cases hshares : p.smoke.ns = p.controlPlane.ns <;> cases p.selection.controlPlane <;>
    simp [h, hshares]

/-- What a run applies into the namespaces of its plan, apart from the operators. -/
def placed (p : Plan) : List Stage :=
  (if p.selection.controlPlane then [p.controlPlaneApply, p.memberRollApply] else []) ++
    if p.selection.smoke then [p.smokeVerify] else []

theorem mem_afterGrants_of_placed (h : stage ∈ p.placed) : stage ∈ p.afterGrants := by
  unfold placed at h
  simp only [afterGrants, smokeStages, List.mem_append]
  rcases List.mem_append.1 h with hmesh | hsmoke
  · obtain ⟨hselected, hstage⟩ := List.mem_ite_nil_right.1 hmesh
    rcases List.mem_pair.1 hstage with rfl | rfl
    · simp [hselected]
    · simp [hselected]
  · obtain ⟨hselected, hstage⟩ := List.mem_ite_nil_right.1 hsmoke
    obtain rfl := List.mem_singleton.1 hstage
    simp [hselected]

theorem countP_before_controlPlaneApply (hselected : p.selection.controlPlane = true)
    (h : p.installation tool = before ++ p.controlPlaneApply :: after) :
    before.countP (creates p.controlPlane.ns) = 1 := by
  have hmem : p.controlPlaneApply ∈ p.afterGrants :=
    mem_afterGrants_of_placed (by simp [placed, hselected])
  have hsplit : p.installation tool =
      ((if p.selection.operators then p.operatorSetup tool else []) ++
        [p.namespaceCreation p.controlPlane.ns]) ++ p.controlPlaneApply ::
        (p.workloads.map p.namespaceCreation ++ [p.memberRollApply] ++ p.smokeStages) := by
    simp [installation_eq_smokeStages, lasting, hselected]
  rw [Stage.before_eq_of_count (count_installation hmem) h hsplit, List.countP_append,
    countP_creates_singleton, List.count_singleton_self]
  split
  · rw [countP_creates_operatorSetup]
  · rfl

theorem countP_before_memberRollApply (hselected : p.selection.controlPlane = true)
    (h : p.installation tool = before ++ p.memberRollApply :: after) :
    before.countP (creates p.controlPlane.ns) = 1 := by
  have hmem : p.memberRollApply ∈ p.afterGrants :=
    mem_afterGrants_of_placed (by simp [placed, hselected])
  -- The member roll is the last stage that lasts, so all that these create is created before it.
  obtain ⟨front, hfront⟩ : ∃ front, p.lasting tool = front ++ [p.memberRollApply] :=
    ⟨_, by rw [lasting, if_pos hselected, if_pos hselected]⟩
  have hsplit : p.installation tool = front ++ p.memberRollApply :: p.smokeStages := by
    rw [installation_eq_smokeStages, hfront, List.append_assoc, List.singleton_append]
  have hmemberRoll : [p.memberRollApply].countP (creates p.controlPlane.ns) = 0 :=
    countP_creates_apply (List.forall_mem_singleton.2 rfl)
  have hcount : (p.lasting tool).countP (creates p.controlPlane.ns) = 1 := by
    rw [countP_creates_lasting]
    exact List.count_eq_one_of_mem nodup_deletedNamespaces
      (controlPlane_mem_deletedNamespaces hselected)
  rw [Stage.before_eq_of_count (count_installation hmem) h hsplit]
  rw [hfront, List.countP_append] at hcount
  omega

theorem countP_before_smokeVerify (hselected : p.selection.smoke = true)
    (h : p.installation tool = before ++ p.smokeVerify :: after) :
    before.countP (creates p.smoke.ns) = if p.losesNamespace then 0 else 1 := by
  have hmem : p.smokeVerify ∈ p.afterGrants :=
    mem_afterGrants_of_placed (by simp [placed, hselected])
  have hsplit : p.installation tool = p.lasting tool ++ p.smokeVerify :: [p.smokeTeardown] := by
    rw [installation_eq_smokeStages, smokeStages, if_pos hselected]
  rw [Stage.before_eq_of_count (count_installation hmem) h hsplit, countP_creates_lasting,
    nodup_deletedNamespaces.count]
  simp only [smoke_mem_deletedNamespaces_iff hselected]
  cases p.losesNamespace <;> rfl

theorem placed_of_appliesInto (hmem : stage ∈ p.installation tool)
    (happlies : stage.appliesInto?.isSome = true) :
    stage ∈ p.operatorSetup tool ∨ stage ∈ p.placed := by
  rw [installation_eq_smokeStages] at hmem
  simp only [lasting, smokeStages, List.mem_append, List.mem_ite_nil_right, List.mem_map] at hmem
  simp only [placed, List.mem_append, List.mem_ite_nil_right]
  rcases hmem with (((⟨-, hoperator⟩ | ⟨hselected, hmesh⟩) | ⟨ns, -, rfl⟩) | ⟨hselected, hroll⟩) |
    ⟨hselected, hsmoke⟩
  · exact .inl hoperator
  · rcases List.mem_pair.1 hmesh with rfl | rfl
    · cases happlies
    · exact .inr (.inl ⟨hselected, List.mem_cons_self ..⟩)
  · cases happlies
  · obtain rfl := List.mem_singleton.1 hroll
    exact .inr (.inl ⟨hselected, List.mem_cons_of_mem _ (List.mem_singleton_self _)⟩)
  · rcases List.mem_pair.1 hsmoke with rfl | rfl
    · exact .inr (.inr ⟨hselected, List.mem_singleton_self _⟩)
    · cases happlies

/-- What is applied into the plan's namespaces comes after exactly one stage that creates the
namespace. The one exception is a smoke workload without the control plane whose namespace is called
like the control plane's: no stage before it creates the namespace then. -/
theorem created_once_before_applied (p : Plan) (tool : ClusterTool) :
    (∀ stage ∈ p.placed, stage ∈ p.installation tool ∧ ∃ ns, stage.appliesInto? = some ns ∧
      ∀ before after, p.installation tool = before ++ stage :: after →
        before.countP (creates ns) = if p.losesNamespace then 0 else 1) ∧
    ∀ stage ∈ p.installation tool, stage.appliesInto?.isSome = true →
      stage ∈ p.operatorSetup tool ∨ stage ∈ p.placed := by
  refine ⟨fun stage hplaced => ⟨?_, ?_⟩, fun stage => placed_of_appliesInto⟩
  · rw [installation_eq_grants]
    exact List.mem_append_right _ (mem_afterGrants_of_placed hplaced)
  · rcases List.mem_append.1 hplaced with hmesh | hsmoke
    · obtain ⟨hselected, hstage⟩ := List.mem_ite_nil_right.1 hmesh
      have hkept : p.losesNamespace = false := by simp [losesNamespace, hselected]
      rw [hkept]
      rcases List.mem_pair.1 hstage with rfl | rfl
      · exact ⟨_, rfl, fun _ _ => countP_before_controlPlaneApply hselected⟩
      · exact ⟨_, rfl, fun _ _ => countP_before_memberRollApply hselected⟩
    · obtain ⟨hselected, hstage⟩ := List.mem_ite_nil_right.1 hsmoke
      obtain rfl := List.mem_singleton.1 hstage
      exact ⟨_, rfl, fun _ _ => countP_before_smokeVerify hselected⟩

def crowded : Plan :=
  { standard with
    operators := { standard.operators with ns := "mesh" }
    controlPlane := { standard.controlPlane with ns := "mesh" }
    members := .ofList ["mesh"]
    smoke := { standard.smoke with ns := "mesh" } }

theorem created_once_before_applied_of_crowded :
    crowded.smokeVerify ∈ crowded.placed ∧ ∃ before after,
      crowded.installation {} = before ++ crowded.smokeVerify :: after ∧
        before.countP (creates "mesh") = 1 := by
  have hplaced : crowded.smokeVerify ∈ crowded.placed := by decide +kernel
  obtain ⟨hmem, ns, happlies, honce⟩ := (created_once_before_applied crowded {}).1 _ hplaced
  obtain ⟨before, after, hsplit⟩ := List.append_of_mem hmem
  obtain rfl : "mesh" = ns := Option.some.inj happlies
  exact ⟨hplaced, before, after, hsplit, honce before after hsplit⟩

/-- A smoke workload alone, in a namespace that is called like the control plane's. -/
def stranded : Plan :=
  { smokeAlone with controlPlane := { standard.controlPlane with ns := "bookinfo" } }

theorem applied_into_nothing_of_stranded :
    stranded.fault? = none ∧ stranded.smokeVerify.appliesInto? = some "bookinfo" ∧
      stranded.installation {} = [] ++ stranded.smokeVerify :: [stranded.smokeTeardown] ∧
      [].countP (creates "bookinfo") ≠ 1 := by
  decide +kernel

end Plan

end MeshTestbed
