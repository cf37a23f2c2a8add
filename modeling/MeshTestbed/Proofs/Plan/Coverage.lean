import Mathlib.Data.List.Sort
import MeshTestbed.Proofs.Plan.Namespaces

namespace MeshTestbed

namespace Selection

variable {c d e : Selection}

def union (c d : Selection) : Selection :=
  { operators := c.operators || d.operators
    controlPlane := c.controlPlane || d.controlPlane
    smoke := c.smoke || d.smoke }

/-- Whatever `c` selects is selected by `e`. -/
structure Within (c e : Selection) : Prop where
  operators : c.operators = true → e.operators = true
  controlPlane : c.controlPlane = true → e.controlPlane = true
  smoke : c.smoke = true → e.smoke = true

theorem within_union_left : c.Within (c.union d) :=
  ⟨by simp +contextual [union], by simp +contextual [union], by simp +contextual [union]⟩

theorem within_union_right : d.Within (c.union d) :=
  ⟨by simp +contextual [union], by simp +contextual [union], by simp +contextual [union]⟩

end Selection

theorem sublist_ite {α : Type} {xs : List α} {b b' : Bool} (h : b = true → b' = true) :
    (if b then xs else []).Sublist (if b' then xs else []) := by
  cases b with
  | false => exact List.nil_sublist _
  | true =>
    rw [h rfl]

namespace Plan

variable {p : Plan} {c d e : Selection} {tool : ClusterTool} {stage : Stage}

def covering (p : Plan) (c : Selection) : Plan := { p with selection := c }

theorem workloads_sublist (h : c.Within e) :
    (p.covering c).workloads.Sublist (p.covering e).workloads := by
  have hordered (c : Selection) : (p.covering c).workloads.Pairwise (· < ·) := NameSet.ordered _
  have hsubset : (p.covering c).workloads ⊆ (p.covering e).workloads := by
    intro ns hns
    rw [mem_workloads] at hns ⊢
    refine ⟨hns.1, hns.2.imp (And.imp_left h.controlPlane) (And.imp_left h.smoke)⟩
  exact List.sublist_of_subperm_of_pairwise (List.subperm_of_subset (hordered c).nodup hsubset)
    (hordered c) (hordered e)

theorem lasting_sublist (h : c.Within e) :
    ((p.covering c).lasting tool).Sublist ((p.covering e).lasting tool) :=
  (((sublist_ite h.operators).append (sublist_ite h.controlPlane)).append
    ((workloads_sublist h).map _)).append (sublist_ite h.controlPlane)

theorem afterGrants_sublist (h : c.Within e) :
    (p.covering c).afterGrants.Sublist (p.covering e).afterGrants :=
  ((((sublist_ite h.operators).append (sublist_ite h.controlPlane)).append
    ((workloads_sublist h).map _)).append (sublist_ite h.controlPlane)).append
    (sublist_ite h.smoke)

theorem installation_sublist (h : c.Within e) :
    ((p.covering c).installation tool).Sublist ((p.covering e).installation tool) := by
  rw [installation_eq_grants, installation_eq_grants]
  exact (sublist_ite h.operators).append (afterGrants_sublist h)

theorem removal_sublist (h : c.Within e) :
    ((p.covering c).removal tool).Sublist ((p.covering e).removal tool) :=
  ((lasting_sublist h).reverse.filterMap _).append (sublist_ite h.operators)

theorem mem_ite_union {a b : Bool} {xs : List Stage} : stage ∈ (if a || b then xs else []) ↔
    stage ∈ (if a then xs else []) ∨ stage ∈ (if b then xs else []) := by
  cases a <;> cases b <;> simp

theorem mem_append_union {xs xs' ys ys' zs zs' : List Stage}
    (h : stage ∈ zs ↔ stage ∈ xs ∨ stage ∈ ys) (h' : stage ∈ zs' ↔ stage ∈ xs' ∨ stage ∈ ys') :
    stage ∈ zs ++ zs' ↔ stage ∈ xs ++ xs' ∨ stage ∈ ys ++ ys' := by
  rw [List.mem_append, List.mem_append, List.mem_append, h, h', or_or_or_comm]

theorem mem_workloads_union {ns : String} : ns ∈ (p.covering (c.union d)).workloads ↔
    ns ∈ (p.covering c).workloads ∨ ns ∈ (p.covering d).workloads := by
  simp only [mem_workloads, covering, Selection.union, Bool.or_eq_true]
  rw [or_and_right, or_and_right, or_or_or_comm, and_or_left]

theorem mem_lasting_union : stage ∈ (p.covering (c.union d)).lasting tool ↔
    stage ∈ (p.covering c).lasting tool ∨ stage ∈ (p.covering d).lasting tool := by
  have hworkloads : stage ∈ (p.covering (c.union d)).workloads.map p.namespaceCreation ↔
      stage ∈ (p.covering c).workloads.map p.namespaceCreation ∨
        stage ∈ (p.covering d).workloads.map p.namespaceCreation := by
    simp only [List.mem_map, mem_workloads_union, or_and_right, exists_or]
  exact mem_append_union (mem_append_union (mem_append_union mem_ite_union mem_ite_union)
    hworkloads) mem_ite_union

theorem mem_installation_union : stage ∈ (p.covering (c.union d)).installation tool ↔
    stage ∈ (p.covering c).installation tool ∨ stage ∈ (p.covering d).installation tool := by
  simp only [installation_eq_smokeStages]
  exact mem_append_union mem_lasting_union mem_ite_union

theorem mem_removal_union : stage ∈ (p.covering (c.union d)).removal tool ↔
    stage ∈ (p.covering c).removal tool ∨ stage ∈ (p.covering d).removal tool := by
  have hundoing : stage ∈ Conductor.undoing ((p.covering (c.union d)).lasting tool) ↔
      stage ∈ Conductor.undoing ((p.covering c).lasting tool) ∨
        stage ∈ Conductor.undoing ((p.covering d).lasting tool) := by
    simp only [mem_undoing_iff, mem_lasting_union, or_and_right, exists_or]
  exact mem_append_union hundoing mem_ite_union

theorem ite_or_eq_max {a b : Prop} [Decidable a] [Decidable b] :
    (if a ∨ b then 1 else 0) = max (if a then 1 else 0) (if b then 1 else 0 : Nat) := by
  by_cases ha : a <;> by_cases hb : b <;> simp [ha, hb]

/-- Of distinct stages none is there more than once, in one list or in several. -/
theorem count_eq_max_of_nodup {xs ys zs : List Stage} (hxs : xs.Nodup) (hys : ys.Nodup)
    (hzs : zs.Nodup) (hmem : stage ∈ zs ↔ stage ∈ xs ∨ stage ∈ ys) :
    zs.count stage = max (xs.count stage) (ys.count stage) := by
  rw [hxs.count, hys.count, hzs.count]
  simp only [hmem, ite_or_eq_max]

theorem count_installation_of_not_grant (h : stage ∉ p.grantStages tool) :
    (p.installation tool).count stage = if stage ∈ p.installation tool then 1 else 0 := by
  split
  · next hmem =>
    rw [installation_eq_grants] at hmem
    exact count_installation ((List.mem_append.1 hmem).resolve_left h)
  · next hmem => exact List.count_eq_zero_of_not_mem hmem

theorem count_installation_of_grant (h : stage ∉ p.afterGrants) :
    (p.installation tool).count stage = (p.grantStages tool).count stage := by
  rw [installation_eq_grants, List.count_append, List.count_eq_zero_of_not_mem h, Nat.add_zero]

/-- Grants may be listed twice, all other stages are distinct. -/
theorem count_installation_union : ((p.covering (c.union d)).installation tool).count stage =
    max (((p.covering c).installation tool).count stage)
      (((p.covering d).installation tool).count stage) := by
  have hleft : c.Within (c.union d) := Selection.within_union_left
  have hright : d.Within (c.union d) := Selection.within_union_right
  -- A grant is counted where the grants are, any other stage is there at most once.
  by_cases hgrant : stage ∈ (p.covering (c.union d)).grantStages tool
  · have hother : stage ∉ (p.covering (c.union d)).afterGrants := fun hmem =>
      not_mem_grantStages hmem hgrant
    rw [count_installation_of_grant hother,
      count_installation_of_grant fun hmem => hother ((afterGrants_sublist hleft).mem hmem),
      count_installation_of_grant fun hmem => hother ((afterGrants_sublist hright).mem hmem)]
    unfold grantStages covering Selection.union
    cases c.operators <;> cases d.operators <;> simp
  · have hleftGrants : ((p.covering c).grantStages tool).Sublist
        ((p.covering (c.union d)).grantStages tool) := sublist_ite hleft.operators
    have hrightGrants : ((p.covering d).grantStages tool).Sublist
        ((p.covering (c.union d)).grantStages tool) := sublist_ite hright.operators
    rw [count_installation_of_not_grant hgrant,
      count_installation_of_not_grant fun hmem => hgrant (hleftGrants.mem hmem),
      count_installation_of_not_grant fun hmem => hgrant (hrightGrants.mem hmem)]
    simp only [mem_installation_union, ite_or_eq_max]

/-- `zs` has the stages of `xs` and those of `ys`, each as often as in the one in which it occurs
more often, and it leaves those of either in their order. -/
def Joins (xs ys zs : List Stage) : Prop :=
  xs.Sublist zs ∧ ys.Sublist zs ∧ ∀ stage,
    (stage ∈ zs ↔ stage ∈ xs ∨ stage ∈ ys) ∧
      zs.count stage = max (xs.count stage) (ys.count stage)

/-- Whatever parts two selections cover, the stages of both together are those of the one and those
of the other, for an install and for an uninstall. -/
theorem selections_join (p : Plan) (c d : Selection) (tool : ClusterTool) :
    Joins ((p.covering c).installation tool) ((p.covering d).installation tool)
      ((p.covering (c.union d)).installation tool) ∧
    Joins ((p.covering c).removal tool) ((p.covering d).removal tool)
      ((p.covering (c.union d)).removal tool) := by
  have hleft : c.Within (c.union d) := Selection.within_union_left
  have hright : d.Within (c.union d) := Selection.within_union_right
  constructor
  · exact ⟨installation_sublist hleft, installation_sublist hright, fun _ =>
      ⟨mem_installation_union, count_installation_union⟩⟩
  · have hnodup (e : Selection) : ((p.covering e).removal tool).Nodup :=
      nodup_names_removal.of_map _
    exact ⟨removal_sublist hleft, removal_sublist hright, fun _ => ⟨mem_removal_union,
      count_eq_max_of_nodup (hnodup c) (hnodup d) (hnodup _) mem_removal_union⟩⟩

end Plan

end MeshTestbed
