import MeshTestbed.Proofs.Plan.Removal
import MeshTestbed.Proofs.Stage.Validation

namespace MeshTestbed

theorem Wait.fault_eq_none_iff_of_absent {wait : Wait} (hgoal : wait.goal = .absent) :
    wait.fault? = none ↔
      wait.interval.isZero = false ∧ ¬ wait.timeout.toNanos < wait.interval.toNanos := by
  have hgoalFault : wait.goalFault? = none := by rw [Wait.goalFault?, hgoal]
  rw [Wait.fault?, hgoalFault]
  split
  · next hzero => simp [hzero]
  · next hpositive =>
    split
    · next hshort => simp [hshort]
    · next hlong => simp [hlong, Bool.eq_false_iff.2 hpositive]

namespace Stage

theorem stripStart_append {start : String} {rest : List Char} :
    stripStart? start (start.toList ++ rest) = some rest := by
  unfold stripStart?
  rw [if_pos (List.isPrefixOf_iff_prefix.2 (List.prefix_append _ _)), ← String.length_toList,
    List.drop_left]

theorem undoName_create {rest : String} : undoName ("create-" ++ rest) = "delete-" ++ rest := by
  have hother : stripStart? "apply-" ("create-".toList ++ rest.toList) = none := rfl
  unfold undoName
  rw [String.toList_append, stripStart_append, hother, Option.none_or]
  exact congrArg ("delete-" ++ ·) String.ofList_toList

def names (stages : List Stage) : List String := stages.map (·.name)

theorem names_append {xs ys : List Stage} : names (xs ++ ys) = names xs ++ names ys :=
  List.map_append

theorem names_undoing {stages : List Stage} (h : ∀ stage ∈ stages, stage.brings = true) :
    names (Conductor.undoing stages) = ((names stages).map undoName).reverse := by
  have hnames : names (stages.filterMap undo?) = (names stages).map undoName := by
    induction stages with
    | nil => rfl
    | cons stage rest ih =>
      obtain ⟨hstage, hrest⟩ := List.forall_mem_cons.1 h
      rw [← isSome_undo] at hstage
      obtain ⟨undoing, hundo⟩ := Option.isSome_iff_exists.1 hstage
      rw [List.filterMap_cons_some hundo]
      exact congrArg₂ List.cons (name_of_undo hundo) (ih hrest)
  rw [← hnames, Conductor.undoing, List.filterMap_reverse, names, List.map_reverse, names]

theorem names_undoing_singleton {stage : Stage} {name : String} (hbrings : stage.brings = true)
    (hname : undoName stage.name = name) : names (Conductor.undoing [stage]) = [name] := by
  rw [names_undoing (by simpa using hbrings), ← hname]
  rfl

end Stage

namespace Plan

open Stage (names)

variable {p : Plan} {tool : ClusterTool} {stage : Stage}

def deletedNamespaces (p : Plan) : List String :=
  p.workloads ++ if p.selection.controlPlane then [p.controlPlane.ns] else []

def namespaceDeletion (ns : String) : String := "delete-namespace-" ++ ns

theorem namespaceDeletion_injective : Function.Injective namespaceDeletion := fun _ _ h =>
  (String.append_right_inj _).1 h

def operatorDeletions (p : Plan) : List String :=
  match p.operators.source with
  | .subscriptions _ =>
    ["delete-subscription-mesh", "delete-subscription-dashboard", "delete-subscription-tracing",
      "delete-subscription-logging"]
  | .manifest _ => ["delete-operator"]

/-- The names of the stages that delete anything but a namespace. -/
def fixedDeletions (p : Plan) : List String :=
  (if p.selection.controlPlane then ["delete-member-roll", "delete-control-plane"] else []) ++
    if p.selection.operators then p.operatorDeletions ++ ["delete-operator-csvs"] else []

theorem names_undoing_operatorSetup :
    names (Conductor.undoing (p.operatorSetup tool)) = p.operatorDeletions := by
  have hgrants : Conductor.undoing (p.operators.grants.map (grantStage tool)) = [] := by
    simp [Conductor.undoing, grantStage, Stage.external, Stage.undo?, Action.undo?]
  have hbrings : ∀ stage ∈ p.operatorStages, stage.brings = true := fun _ hmem =>
    (applied_of_mem_operatorStages hmem).2
  rw [operatorSetup_eq, Conductor.undoing_append, hgrants, List.append_nil,
    Stage.names_undoing hbrings, operatorStages, names, map_mapLast]
  · unfold operatorApplies operatorDeletions
    have hsubscriptions : (["apply-subscription-logging", "apply-subscription-tracing",
          "apply-subscription-dashboard", "apply-subscription-mesh"].map Stage.undoName).reverse =
        ["delete-subscription-mesh", "delete-subscription-dashboard",
          "delete-subscription-tracing", "delete-subscription-logging"] := by decide +kernel
    have hmanifest : (["apply-operator"].map Stage.undoName).reverse = ["delete-operator"] := by
      decide +kernel
    cases p.operators.source with
    | subscriptions s => exact hsubscriptions
    | manifest path => exact hmanifest
  · exact fun _ => rfl

theorem names_undoing_namespaceCreation {namespaces : List String} :
    names (Conductor.undoing (namespaces.map p.namespaceCreation)) =
      (namespaces.map namespaceDeletion).reverse := by
  have hbrings : ∀ stage ∈ namespaces.map p.namespaceCreation, stage.brings = true := by
    intro stage hmem
    obtain ⟨ns, -, rfl⟩ := List.mem_map.1 hmem
    rfl
  have hname : ∀ ns, Stage.undoName (p.namespaceCreation ns).name = namespaceDeletion ns := by
    intro ns
    change Stage.undoName ("create-" ++ "namespace-" ++ ns) = "delete-" ++ "namespace-" ++ ns
    rw [String.append_assoc, String.append_assoc, Stage.undoName_create]
  rw [Stage.names_undoing hbrings, names, List.map_map, List.map_map]
  exact congrArg List.reverse (List.map_congr_left fun ns _ => hname ns)

theorem perm_names_removal : (names (p.removal tool)).Perm
    (p.deletedNamespaces.map namespaceDeletion ++ p.fixedDeletions) := by
  have hmemberRoll : names (Conductor.undoing [p.memberRollApply]) = ["delete-member-roll"] :=
    Stage.names_undoing_singleton rfl
      (by decide : Stage.undoName "apply-member-roll" = "delete-member-roll")
  have hcontrolPlane : names (Conductor.undoing [p.controlPlaneApply]) =
      ["delete-control-plane"] :=
    Stage.names_undoing_singleton rfl
      (by decide : Stage.undoName "apply-control-plane" = "delete-control-plane")
  have hnamespace : names (Conductor.undoing [p.namespaceCreation p.controlPlane.ns]) =
      [namespaceDeletion p.controlPlane.ns] := @names_undoing_namespaceCreation p [_]
  have hcleanup : names p.cleanup =
      if p.selection.operators then ["delete-operator-csvs"] else [] := by
    unfold cleanup
    split <;> rfl
  have hnone : names (Conductor.undoing []) = [] := rfl
  rw [removal_eq, removalFront, removalBack, deletedNamespaces, fixedDeletions,
    List.perm_iff_count]
  intro name
  simp only [Stage.names_append, names_undoing_namespaceCreation, hcleanup, List.map_append,
    List.count_append, List.count_reverse]
  cases p.selection.controlPlane <;> cases p.selection.operators
  all_goals
    simp only [Bool.false_eq_true, if_true, if_false, hmemberRoll, hcontrolPlane, hnamespace,
      hnone, names_undoing_operatorSetup, List.map_cons, List.map_nil, List.count_append,
      List.count_cons, List.count_nil]
    omega

theorem nodup_deletedNamespaces : p.deletedNamespaces.Nodup := by
  have hordered : p.workloads.Pairwise (· < ·) := NameSet.ordered _
  have hworkloads : p.workloads.Nodup := by
    refine hordered.imp ?_
    rintro ns _ hlt rfl
    exact String.lt_irrefl ns hlt
  have hother : p.controlPlane.ns ∉ p.workloads := by simp [workloads, NameSet.erase]
  unfold deletedNamespaces
  split
  · refine List.nodup_append.2 ⟨hworkloads, List.nodup_singleton _, ?_⟩
    rintro ns hns _ hcontrolPlane rfl
    exact hother (List.mem_singleton.1 hcontrolPlane ▸ hns)
  · rwa [List.append_nil]

def meshNames : List String := ["delete-member-roll", "delete-control-plane"]

def operatorsNames : List String :=
  ["delete-subscription-mesh", "delete-subscription-dashboard", "delete-subscription-tracing",
    "delete-subscription-logging", "delete-operator", "delete-operator-csvs"]

theorem fixedDeletions_sublist : p.fixedDeletions.Sublist (meshNames ++ operatorsNames) := by
  unfold fixedDeletions operatorDeletions
  apply List.Sublist.append
  · split
    · exact .refl _
    · exact List.nil_sublist _
  · split
    · cases p.operators.source with
      | subscriptions s => exact .append (.refl _) (List.sublist_append_right ["delete-operator"] _)
      | manifest path => exact List.sublist_append_right (operatorsNames.take 4) _
    · exact List.nil_sublist _

theorem nodup_fixedDeletions : p.fixedDeletions.Nodup := by
  have hnodup : (meshNames ++ operatorsNames).Nodup := by
    simp [meshNames, operatorsNames]
  exact hnodup.sublist fixedDeletions_sublist

theorem namespaceDeletion_not_mem_fixedDeletions {ns : String} :
    namespaceDeletion ns ∉ p.fixedDeletions := by
  have hother : ∀ name ∈ meshNames ++ operatorsNames,
      ¬ "delete-namespace-".toList <+: name.toList := by decide +kernel
  have hsplit : (namespaceDeletion ns).toList = "delete-namespace-".toList ++ ns.toList :=
    String.toList_append
  intro hmem
  exact hother _ (fixedDeletions_sublist.subset hmem) (hsplit ▸ List.prefix_append _ _)

theorem nodup_names_removal : (names (p.removal tool)).Nodup := by
  refine perm_names_removal.nodup_iff.2 (List.nodup_append.2
    ⟨nodup_deletedNamespaces.map namespaceDeletion_injective, nodup_fixedDeletions, ?_⟩)
  rintro name hname _ hfixed rfl
  obtain ⟨ns, -, rfl⟩ := List.mem_map.1 hname
  exact namespaceDeletion_not_mem_fixedDeletions hfixed

theorem AwaitsGone.waitFault {other : Stage} (hstage : p.AwaitsGone stage)
    (hother : p.AwaitsGone other) (h : stage.Faultless) {wait : Wait}
    (hwait : other.readiness = some wait) : wait.fault? = none := by
  obtain ⟨paced, hpaced, hgoal, hinterval, htimeout, -⟩ := hstage
  obtain ⟨found, hfound, hgoal', hinterval', htimeout', -⟩ := hother
  obtain rfl : found = wait := Option.some.inj (hfound.symm.trans hwait)
  have hfault := h.readiness paced hpaced
  rw [Wait.fault_eq_none_iff_of_absent hgoal, hinterval, htimeout] at hfault
  rwa [Wait.fault_eq_none_iff_of_absent hgoal', hinterval', htimeout']

theorem exists_operatorDeletion (h : p.selection.operators = true) :
    ∃ stage, stage ∈ Conductor.undoing (p.lasting tool) := by
  have hnames : names (Conductor.undoing (p.operatorSetup tool)) ≠ [] := by
    rw [names_undoing_operatorSetup, operatorDeletions]
    split <;> simp
  obtain ⟨stage, hstage⟩ := List.exists_mem_of_ne_nil _ (fun hnil => hnames (congrArg names hnil))
  obtain ⟨undone, hundone, hundo⟩ := mem_undoing_iff.1 hstage
  exact ⟨stage, mem_undoing_iff.2 ⟨undone, by simp [lasting, h, hundone], hundo⟩⟩

/-- Any plan whose stages pass the check of an install passes that of an uninstall, and whatever its
namespaces and grants are called, no two of the uninstall's stages share a name. -/
theorem removable_of_installable (p : Plan) (tool : ClusterTool) :
    (Stage.checkAll (p.installation tool) = .ok () → Stage.checkAll (p.removal tool) = .ok ()) ∧
      ((p.removal tool).map (·.name)).Nodup := by
  refine ⟨fun hchecked => Stage.checkAll_eq_ok_iff.2 ⟨?_, nodup_names_removal⟩,
    nodup_names_removal⟩
  have hundone : ∀ stage ∈ Conductor.undoing (p.lasting tool), stage.Faultless := by
    intro stage hmem
    obtain ⟨undone, hundone, hundo⟩ := mem_undoing_iff.1 hmem
    exact ((Stage.checkAll_eq_ok_iff.1 hchecked).1 undone
      (List.mem_append_left _ hundone)).undo hundo
  intro stage hmem
  rcases List.mem_append.1 hmem with hmem' | hcleanup
  · exact hundone stage hmem'
  have hgone : p.AwaitsGone stage := awaitsGone_of_mem_removal hmem
  unfold cleanup at hcleanup
  split at hcleanup
  · next hselected =>
    obtain rfl := List.mem_singleton.1 hcleanup
    obtain ⟨deletion, hdeletion⟩ := exists_operatorDeletion hselected
    have hdeletionGone := awaitsGone_of_mem_removal (List.mem_append_left _ hdeletion)
    have hnamed : Text.isBlankText "delete-operator-csvs" = false := by decide
    refine ⟨hnamed, rfl, ?_, fun _ hnone => by cases hnone⟩
    exact fun wait => hdeletionGone.waitFault hgone (hundone deletion hdeletion)
  · cases hcleanup

/-- A plan whose namespaces are called like stages. -/
def misleading : Plan :=
  { standard with
    operators :=
      { ns := "operator-csvs", source := .manifest "operator.yaml"
        grants := [⟨"default", "control-plane"⟩, ⟨"default", "member-roll"⟩] }
    members := .ofList ["control-plane", "delete-namespace-bookinfo", "operator-csvs"] }

theorem removable_of_installable_of_misleading :
    Stage.checkAll (misleading.installation {}) = .ok () ∧
      Stage.checkAll (misleading.removal {}) = .ok () ∧
      ((misleading.removal {}).map (·.name)).Nodup := by
  have hchecked : Stage.checkAll (misleading.installation {}) = .ok () := by
    decide +kernel
  obtain ⟨hremovable, hnodup⟩ := removable_of_installable misleading {}
  exact ⟨hchecked, hremovable hchecked, hnodup⟩

end Plan

end MeshTestbed
