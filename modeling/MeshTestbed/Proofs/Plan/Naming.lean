import MeshTestbed.Proofs.Plan.Removable

/-!
The name of a grant has a hyphen between the namespace and the service account, and either may have
hyphens of its own, so different grants can come to one name (`Grant.stageName_eq_iff`). No other
two stages of an install share a name.
-/

namespace MeshTestbed

namespace Grant

variable {g h : Grant}

def stageName (g : Grant) : String := "grant-anyuid-" ++ g.ns ++ "-" ++ g.serviceAccount

/-- The namespace of `h` goes on, behind a hyphen, with how the service account of `g` begins. -/
def RunsInto (g h : Grant) : Prop :=
  ∃ middle, h.ns = g.ns ++ "-" ++ middle ∧ g.serviceAccount = middle ++ "-" ++ h.serviceAccount

theorem stageName_of_runsInto (hinto : g.RunsInto h) : g.stageName = h.stageName := by
  obtain ⟨middle, hns, haccount⟩ := hinto
  simp only [stageName, hns, haccount, String.append_assoc]

theorem eq_or_runsInto {rest : List Char} (hns : h.ns.toList = g.ns.toList ++ rest)
    (haccount : '-' :: g.serviceAccount.toList = rest ++ '-' :: h.serviceAccount.toList) :
    g = h ∨ g.RunsInto h := by
  rcases rest with _ | ⟨c, middle⟩
  · left
    obtain ⟨account, ns⟩ := g
    obtain ⟨account', ns'⟩ := h
    simp_all [String.ext_iff]
  · right
    obtain ⟨rfl, hmiddle⟩ : '-' = c ∧ g.serviceAccount.toList = middle ++ '-' :: _ := by
      simpa using haccount
    have hhyphen : "-".toList = ['-'] := rfl
    refine ⟨String.ofList middle, ?_, ?_⟩
    · simp [String.ext_iff, hns, hhyphen]
    · simp [String.ext_iff, hmiddle, hhyphen]

/-- Different grants share a name exactly if the parts of one run into those of the other. -/
theorem stageName_eq_iff : g.stageName = h.stageName ↔ g = h ∨ g.RunsInto h ∨ h.RunsInto g := by
  constructor
  · intro hname
    have hchars : g.ns.toList ++ '-' :: g.serviceAccount.toList =
        h.ns.toList ++ '-' :: h.serviceAccount.toList := by
      have hhyphen : "-".toList = ['-'] := rfl
      simp only [stageName, String.append_assoc, String.append_right_inj] at hname
      simpa only [String.toList_append, hhyphen, List.singleton_append] using
        congrArg String.toList hname
    -- One of the two namespaces begins with the other.
    rcases List.append_eq_append_iff.1 hchars with ⟨rest, hns, haccount⟩ | ⟨rest, hns, haccount⟩
    · exact (eq_or_runsInto hns haccount).imp_right .inl
    · exact (eq_or_runsInto hns haccount).imp Eq.symm .inr
  · rintro (rfl | hinto | hinto)
    · rfl
    · exact stageName_of_runsInto hinto
    · exact (stageName_of_runsInto hinto).symm

end Grant

namespace Plan

open Stage (names)

variable {p : Plan} {tool : ClusterTool} {stage : Stage}

def grantStages (p : Plan) (tool : ClusterTool) : List Stage :=
  if p.selection.operators then p.operators.grants.map (grantStage tool) else []

def smokeTeardown (p : Plan) : Stage :=
  { name := "delete-smoke-workload"
    action := .deleteManifest (some p.smoke.ns) (.file p.smoke.manifest)
    readiness := p.smokeVerify.teardownReadiness
    onTimeout := p.smokeVerify.teardownOnTimeout }

theorem undo_smokeVerify : p.smokeVerify.undo? = some p.smokeTeardown := by
  have hname : Stage.undoName "apply-smoke-workload" = "delete-smoke-workload" := by decide
  rw [smokeTeardown, ← hname]
  rfl

def smokeStages (p : Plan) : List Stage :=
  if p.selection.smoke then [p.smokeVerify, p.smokeTeardown] else []

theorem installation_eq_smokeStages : p.installation tool = p.lasting tool ++ p.smokeStages := by
  unfold installation smokeStages smokePair?
  rw [undo_smokeVerify]
  cases p.selection.smoke <;> rfl

def afterGrants (p : Plan) : List Stage :=
  (if p.selection.operators then p.operatorStages else []) ++
    (if p.selection.controlPlane then [p.namespaceCreation p.controlPlane.ns, p.controlPlaneApply]
    else []) ++
    p.workloads.map p.namespaceCreation ++
    (if p.selection.controlPlane then [p.memberRollApply] else []) ++ p.smokeStages

theorem installation_eq_grants : p.installation tool = p.grantStages tool ++ p.afterGrants := by
  have hoperators : (if p.selection.operators then p.operatorSetup tool else []) =
      p.grantStages tool ++ if p.selection.operators then p.operatorStages else [] := by
    unfold grantStages
    split
    · exact operatorSetup_eq
    · rfl
  simp only [installation_eq_smokeStages, lasting, hoperators, afterGrants, List.append_assoc]

def grantNames (p : Plan) : List String :=
  if p.selection.operators then p.operators.grants.map Grant.stageName else []

theorem names_grantStages : names (p.grantStages tool) = p.grantNames := by
  unfold grantStages grantNames
  split
  · exact List.map_map
  · rfl

def namespaceCreationName (ns : String) : String := "create-namespace-" ++ ns

theorem toList_namespaceCreationName {ns : String} :
    (namespaceCreationName ns).toList = "create-namespace-".toList ++ ns.toList :=
  String.toList_append

theorem namespaceCreationName_injective : Function.Injective namespaceCreationName := fun _ _ h =>
  (String.append_right_inj _).1 h

/-- The names of the stages that neither grant anything nor create a namespace. -/
def fixedNames (p : Plan) : List String :=
  (if p.selection.operators then names p.operatorApplies else []) ++
    ((if p.selection.controlPlane then ["apply-control-plane", "apply-member-roll"] else []) ++
      if p.selection.smoke then ["apply-smoke-workload", "delete-smoke-workload"] else [])

theorem names_smokeStages : names p.smokeStages =
    if p.selection.smoke then ["apply-smoke-workload", "delete-smoke-workload"] else [] := by
  unfold smokeStages
  cases p.selection.smoke <;> rfl

/-- An install creates the namespaces that an uninstall deletes. -/
theorem perm_names_afterGrants : (names p.afterGrants).Perm
    (p.deletedNamespaces.map namespaceCreationName ++ p.fixedNames) := by
  have hcreations : names (p.workloads.map p.namespaceCreation) =
      p.workloads.map namespaceCreationName := List.map_map
  have hoperators : names p.operatorStages = names p.operatorApplies := by
    apply map_mapLast
    exact fun _ => rfl
  have hcontrolPlane : names [p.namespaceCreation p.controlPlane.ns, p.controlPlaneApply] =
      [namespaceCreationName p.controlPlane.ns, "apply-control-plane"] := rfl
  have hmemberRoll : names [p.memberRollApply] = ["apply-member-roll"] := rfl
  have hnone : names [] = [] := rfl
  -- Both lists have the same parts in different orders, so a name is counted in each part.
  rw [afterGrants, deletedNamespaces, fixedNames, List.perm_iff_count]
  intro name
  simp only [Stage.names_append, names_smokeStages, hcreations, List.map_append, List.count_append]
  cases p.selection.controlPlane <;> cases p.selection.operators
  all_goals
    simp only [Bool.false_eq_true, if_true, if_false, hoperators, hcontrolPlane, hmemberRoll,
      hnone, List.map_cons, List.map_nil, List.count_cons, List.count_nil]
    omega

def laterNames : List String :=
  ["apply-control-plane", "apply-member-roll", "apply-smoke-workload", "delete-smoke-workload"]

theorem fixedNames_sublist : p.fixedNames.Sublist (operatorNames ++ laterNames) := by
  have hoperators : (names p.operatorApplies).Sublist operatorNames := by
    unfold operatorApplies
    cases p.operators.source with
    | subscriptions s =>
      exact (by decide : ["apply-subscription-logging", "apply-subscription-tracing",
        "apply-subscription-dashboard", "apply-subscription-mesh"].Sublist operatorNames)
    | manifest path => exact (by decide : ["apply-operator"].Sublist operatorNames)
  unfold fixedNames
  refine List.Sublist.append ?_ ?_
  · split
    · exact hoperators
    · exact List.nil_sublist _
  · cases p.selection.controlPlane <;> cases p.selection.smoke <;> decide

theorem namespaceCreationName_not_mem_fixedNames {ns : String} :
    namespaceCreationName ns ∉ p.fixedNames := by
  have hother : ∀ name ∈ operatorNames ++ laterNames,
      ¬ "create-namespace-".toList <+: name.toList := by decide +kernel
  intro hmem
  apply hother _ (fixedNames_sublist.subset hmem)
  rw [toList_namespaceCreationName]
  exact List.prefix_append _ _

theorem nodup_names_afterGrants : (names p.afterGrants).Nodup := by
  have hfixed : (operatorNames ++ laterNames).Nodup := by
    simp [operatorNames, laterNames]
  refine perm_names_afterGrants.nodup_iff.2 (List.nodup_append.2
    ⟨nodup_deletedNamespaces.map namespaceCreationName_injective,
      hfixed.sublist fixedNames_sublist, ?_⟩)
  rintro name hname _ hmem rfl
  obtain ⟨ns, -, rfl⟩ := List.mem_map.1 hname
  exact namespaceCreationName_not_mem_fixedNames hmem

theorem not_mem_grantNames {name : String} (h : name ∈ names p.afterGrants) :
    name ∉ p.grantNames := by
  -- The first letter tells them apart.
  have hgrant : ∀ name ∈ p.grantNames, name.toList.head? = some 'g' := by
    intro name hname
    unfold grantNames at hname
    split at hname
    · obtain ⟨g, -, rfl⟩ := List.mem_map.1 hname
      rw [Grant.stageName, String.append_assoc, String.append_assoc, String.toList_append]
      rfl
    · cases hname
  have hfixed : ∀ name ∈ operatorNames ++ laterNames, name.toList.head? ≠ some 'g' := by decide
  intro hmem
  apply absurd (hgrant name hmem)
  rcases List.mem_append.1 (perm_names_afterGrants.mem_iff.1 h) with hcreation | hname
  · obtain ⟨ns, -, rfl⟩ := List.mem_map.1 hcreation
    have hfirst : ("create-namespace-".toList ++ ns.toList).head? = some 'c' := rfl
    rw [toList_namespaceCreationName, hfirst]
    decide
  · exact hfixed name (fixedNames_sublist.subset hname)

theorem nodup_grantNames_iff (hdistinct : p.operators.grants.Nodup) : p.grantNames.Nodup ↔
    (p.selection.operators = true →
      p.operators.grants.Pairwise fun g h => ¬ g.RunsInto h ∧ ¬ h.RunsInto g) := by
  unfold grantNames
  split
  · next hselected =>
    simp only [hselected, forall_const, List.Nodup, List.pairwise_map]
    constructor
    · intro hnames
      refine hnames.imp fun hname => ⟨fun hinto => ?_, fun hinto => ?_⟩
      · exact hname (Grant.stageName_of_runsInto hinto)
      · exact hname (Grant.stageName_of_runsInto hinto).symm
    · intro happart
      -- Names that are equal though the grants differ mean that one runs into the other.
      refine (List.Pairwise.and hdistinct happart).imp ?_
      rintro g h ⟨hne, hforward, hbackward⟩ hname
      rcases Grant.stageName_eq_iff.1 hname with heq | hinto | hinto
      · exact hne heq
      · exact hforward hinto
      · exact hbackward hinto
  · next hother => simp [hother]

theorem not_mem_grantStages (h : stage ∈ p.afterGrants) : stage ∉ p.grantStages tool := by
  intro hmem
  have hname : stage.name ∈ names (p.grantStages tool) := List.mem_map_of_mem hmem
  rw [names_grantStages] at hname
  exact not_mem_grantNames (List.mem_map_of_mem h) hname

theorem count_installation (h : stage ∈ p.afterGrants) : (p.installation tool).count stage = 1 := by
  have honce : p.afterGrants.Nodup := nodup_names_afterGrants.of_map _
  rw [installation_eq_grants, List.count_append,
    List.count_eq_zero_of_not_mem (not_mem_grantStages h), List.count_eq_one_of_mem honce h]

end Plan

end MeshTestbed
