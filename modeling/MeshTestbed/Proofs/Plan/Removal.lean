import MeshTestbed.Proofs.Sequence.Composition
import MeshTestbed.Proofs.Testbed.Install
import Mathlib.Data.List.Forall2
import Mathlib.Data.List.Pairwise

namespace MeshTestbed

/-- The one action deletes what the other brought. -/
inductive Action.Reverses : Action → Action → Prop where
  | manifest (ns : Option String) (manifest : Manifest) :
    Reverses (.deleteManifest ns manifest) (.applyManifest ns manifest)
  | namespace (name : String) : Reverses (.deleteNamespace name) (.createNamespace name)

theorem Action.reverses_of_undo {action undoing : Action} (h : action.undo? = some undoing) :
    undoing.Reverses action := by
  unfold undo? at h
  split at h
  · cases h
    exact .manifest _ _
  · cases h
    exact .namespace _
  · cases h

namespace Stage

variable {stage undoing : Stage}

/-- The stage applies a manifest or creates a namespace. -/
def brings (stage : Stage) : Bool :=
  stage.kind = .applyManifest || stage.kind = .createNamespace

theorem isSome_undo : stage.undo?.isSome = stage.brings := by
  unfold undo? brings kind
  cases stage.action <;> rfl

theorem reverses_of_undo (h : stage.undo? = some undoing) :
    undoing.action.Reverses stage.action := by
  obtain ⟨action, haction, rfl⟩ := Option.map_eq_some_iff.1 h
  exact Action.reverses_of_undo haction

theorem name_of_undo (h : stage.undo? = some undoing) : undoing.name = undoName stage.name := by
  obtain ⟨action, -, rfl⟩ := Option.map_eq_some_iff.1 h
  rfl

theorem forall₂_filterMap_undo {stages : List Stage} :
    List.Forall₂ (fun deletion creation => deletion.action.Reverses creation.action)
      (stages.filterMap Stage.undo?) (stages.filter brings) := by
  induction stages with
  | nil => exact .nil
  | cons stage rest ih =>
    rcases hundo : stage.undo? with _ | undoing
    · have hbrings : stage.brings = false := by simp [← isSome_undo, hundo]
      rw [List.filterMap_cons_none hundo, List.filter_cons_of_neg (by simp [hbrings])]
      exact ih
    · have hbrings : stage.brings = true := by simp [← isSome_undo, hundo]
      rw [List.filterMap_cons_some hundo, List.filter_cons_of_pos hbrings]
      exact .cons (reverses_of_undo hundo) ih

end Stage

namespace Plan

variable {p : Plan} {tool : ClusterTool} {stage : Stage}

theorem mapLast_append {α : Type} {f : α → α} {xs ys : List α} (hys : ys ≠ []) :
    mapLast f (xs ++ ys) = xs ++ mapLast f ys := by
  induction xs with
  | nil => rfl
  | cons x xs ih =>
    rcases hrest : xs ++ ys with _ | ⟨y, rest⟩
    · simp_all
    · rw [List.cons_append, hrest, mapLast, ← hrest, ih]
      rfl

theorem map_mapLast {α β : Type} {f : α → α} {g : α → β} (hf : ∀ a, g (f a) = g a) {xs : List α} :
    (mapLast f xs).map g = xs.map g := by
  induction xs using mapLast.induct with
  | case1 => rfl
  | case2 a => exact congrArg ([·]) (hf a)
  | case3 a b rest ih => exact congrArg (g a :: ·) ih

def operatorStages (p : Plan) : List Stage :=
  mapLast (fun s => s.awaiting p.operatorsSettled p.waits.operatorPods.onTimeout) p.operatorApplies

theorem operatorSetup_eq :
    p.operatorSetup tool = p.operators.grants.map (grantStage tool) ++ p.operatorStages := by
  apply mapLast_append
  unfold operatorApplies
  split <;> simp [Subscriptions.inOrder]

def operatorNames : List String :=
  ["apply-subscription-logging", "apply-subscription-tracing", "apply-subscription-dashboard",
    "apply-subscription-mesh", "apply-operator"]

theorem applied_of_mem_operatorStages (h : stage ∈ p.operatorStages) :
    stage.name ∈ operatorNames ∧ stage.brings = true := by
  obtain ⟨applied, happlied, hstage⟩ := mem_of_mem_mapLast h
  have hfound : applied.name ∈ operatorNames ∧ applied.brings = true := by
    unfold operatorApplies at happlied
    split at happlied
    · obtain ⟨⟨role, path⟩, hrole, rfl⟩ := List.mem_map.1 happlied
      refine ⟨?_, rfl⟩
      change "apply-subscription-" ++ role ∈ operatorNames
      simp only [Subscriptions.inOrder, List.mem_cons, Prod.mk.injEq, List.not_mem_nil,
        or_false] at hrole
      rcases hrole with ⟨rfl, -⟩ | ⟨rfl, -⟩ | ⟨rfl, -⟩ | ⟨rfl, -⟩ <;> decide
    · obtain rfl := List.mem_singleton.1 happlied
      refine ⟨?_, rfl⟩
      change "apply-operator" ∈ operatorNames
      decide
  rcases hstage with rfl | rfl
  · exact hfound
  · exact hfound

theorem mem_lasting_cases (h : stage ∈ p.lasting tool) :
    (∃ g ∈ p.operators.grants, stage = grantStage tool g) ∨ stage ∈ p.operatorStages ∨
      (∃ ns, stage = p.namespaceCreation ns) ∨ stage = p.controlPlaneApply ∨
      stage = p.memberRollApply := by
  simp only [lasting, List.mem_append, or_assoc] at h
  rcases h with hoperators | hcontrolPlane | hworkload | hmemberRoll
  · split at hoperators
    · rw [operatorSetup_eq] at hoperators
      rcases List.mem_append.1 hoperators with hgrant | happlied
      · obtain ⟨g, hg, rfl⟩ := List.mem_map.1 hgrant
        exact .inl ⟨g, hg, rfl⟩
      · exact .inr (.inl happlied)
    · cases hoperators
  · split at hcontrolPlane
    · rw [List.mem_cons, List.mem_singleton] at hcontrolPlane
      rcases hcontrolPlane with rfl | rfl
      · exact .inr (.inr (.inl ⟨_, rfl⟩))
      · exact .inr (.inr (.inr (.inl rfl)))
    · cases hcontrolPlane
  · obtain ⟨ns, -, rfl⟩ := List.mem_map.1 hworkload
    exact .inr (.inr (.inl ⟨ns, rfl⟩))
  · split at hmemberRoll
    · exact .inr (.inr (.inr (.inr (List.mem_singleton.1 hmemberRoll))))
    · cases hmemberRoll

theorem grant_of_not_brings (h : stage ∈ p.lasting tool) (hbrings : stage.brings = false) :
    ∃ g ∈ p.operators.grants, stage = grantStage tool g := by
  rcases mem_lasting_cases h with hgrant | happlied | ⟨ns, rfl⟩ | rfl | rfl
  · exact hgrant
  · simp [(applied_of_mem_operatorStages happlied).2] at hbrings
  all_goals cases hbrings

theorem ne_smokeVerify_of_mem_lasting (h : stage ∈ p.lasting tool) : stage ≠ p.smokeVerify := by
  rintro rfl
  rcases mem_lasting_cases h with ⟨g, -, hgrant⟩ | happlied | ⟨ns, hns⟩ | hother | hother
  · have hkind : ActionKind.applyManifest = .runExternalScript := congrArg Stage.kind hgrant
    cases hkind
  · have hname : "apply-smoke-workload" ∈ operatorNames :=
      (applied_of_mem_operatorStages happlied).1
    exact absurd hname (by decide)
  · have hkind : ActionKind.applyManifest = .createNamespace := congrArg Stage.kind hns
    cases hkind
  · have hname : "apply-smoke-workload" = "apply-control-plane" := congrArg Stage.name hother
    exact absurd hname (by decide)
  · have hname : "apply-smoke-workload" = "apply-member-roll" := congrArg Stage.name hother
    exact absurd hname (by decide)

/-- The stages of an install that an uninstall takes back. -/
def taken (p : Plan) (stage : Stage) : Bool := stage.brings && stage ≠ p.smokeVerify

theorem filter_taken_installation :
    (p.installation tool).filter p.taken = (p.lasting tool).filter Stage.brings := by
  have hlasting : (p.lasting tool).filter p.taken = (p.lasting tool).filter Stage.brings := by
    apply List.filter_congr
    intro stage hmem
    simp [taken, ne_smokeVerify_of_mem_lasting hmem]
  unfold installation
  rw [List.filter_append, hlasting]
  split
  · next verify teardown hpair =>
    obtain ⟨rfl, hteardown⟩ := eq_of_smokePair hpair
    obtain ⟨action, haction, rfl⟩ := Option.map_eq_some_iff.1 hteardown
    cases haction
    simp [taken, Stage.brings, Stage.kind, Action.kind]
  · simp

/-- The stage waits for what it deletes to be gone, at the pace of the plan's deletions. -/
def AwaitsGone (p : Plan) (stage : Stage) : Prop :=
  ∃ wait, stage.readiness = some wait ∧ wait.goal = .absent ∧
    wait.interval = p.waits.deletion.interval ∧ wait.timeout = p.waits.deletion.timeout ∧
    stage.onTimeout = p.waits.deletion.onTimeout

theorem awaitsGone_of_undo_tornDown {resource : Target} {ns : Option String} {undoing : Stage}
    (h : (p.tornDown stage resource ns).undo? = some undoing) : p.AwaitsGone undoing := by
  obtain ⟨action, -, rfl⟩ := Option.map_eq_some_iff.1 h
  exact ⟨_, rfl, rfl, rfl, rfl, rfl⟩

theorem awaitsGone_of_makes {undoing : Stage} (h : p.Makes tool stage)
    (hundo : stage.undo? = some undoing) : p.AwaitsGone undoing := by
  induction h with
  | grant => cases hundo
  | settling _ _ _ ih => exact ih hundo
  | subscription | operator | namespaceCreation | controlPlane | memberRoll | smoke =>
    exact awaitsGone_of_undo_tornDown hundo

theorem mem_undoing_iff {stages : List Stage} :
    stage ∈ Conductor.undoing stages ↔ ∃ undone ∈ stages, undone.undo? = some stage := by
  simp [Conductor.undoing]

theorem awaitsGone_of_mem_removal (h : stage ∈ p.removal tool) : p.AwaitsGone stage := by
  rcases List.mem_append.1 h with hundone | hcleanup
  · obtain ⟨undone, hmem, hundo⟩ := mem_undoing_iff.1 hundone
    exact awaitsGone_of_makes (makes_of_mem_lasting hmem) hundo
  · unfold cleanup at hcleanup
    split at hcleanup
    · obtain rfl := List.mem_singleton.1 hcleanup
      exact ⟨_, rfl, rfl, rfl, rfl, rfl⟩
    · cases hcleanup

/-- The stage removes the control plane or the member roll. -/
def RemovesMesh (p : Plan) (stage : Stage) : Prop :=
  p.controlPlaneApply.undo? = some stage ∨ p.memberRollApply.undo? = some stage

theorem RemovesMesh.action_eq (h : p.RemovesMesh stage) :
    ∃ manifest, stage.action = .deleteManifest (some p.controlPlane.ns) manifest := by
  rcases h with h | h
  all_goals
    cases h
    exact ⟨_, rfl⟩

theorem RemovesMesh.name_eq (h : p.RemovesMesh stage) :
    stage.name = "delete-control-plane" ∨ stage.name = "delete-member-roll" := by
  rcases h with h | h
  · left
    have hname : stage.name = Stage.undoName "apply-control-plane" := Stage.name_of_undo h
    exact hname.trans (by decide)
  · right
    have hname : stage.name = Stage.undoName "apply-member-roll" := Stage.name_of_undo h
    exact hname.trans (by decide)

/-- What comes before the control plane's namespace is deleted, and does not delete it. -/
def SparesNamespace (p : Plan) (stage : Stage) : Prop :=
  stage.action ≠ .deleteNamespace p.controlPlane.ns

theorem RemovesMesh.spares (h : p.RemovesMesh stage) : p.SparesNamespace stage := by
  obtain ⟨manifest, haction⟩ := h.action_eq
  simp [SparesNamespace, haction]

theorem spares_of_mem_workloads
    (h : stage ∈ Conductor.undoing (p.workloads.map p.namespaceCreation)) :
    p.SparesNamespace stage := by
  obtain ⟨undone, hmem, hundo⟩ := mem_undoing_iff.1 h
  obtain ⟨ns, hns, rfl⟩ := List.mem_map.1 hmem
  cases hundo
  have hne : ns ≠ p.controlPlane.ns := by simpa using (List.mem_filter.1 hns).2
  simpa [SparesNamespace] using hne

theorem not_removesMesh_of_undo_namespaceCreation {ns : String}
    (h : (p.namespaceCreation ns).undo? = some stage) : ¬ p.RemovesMesh stage := by
  intro hremoves
  obtain ⟨manifest, haction⟩ := hremoves.action_eq
  cases h
  cases haction

theorem not_removesMesh_of_mem_cleanup (h : stage ∈ p.cleanup) : ¬ p.RemovesMesh stage := by
  intro hremoves
  obtain ⟨manifest, haction⟩ := hremoves.action_eq
  unfold cleanup at h
  split at h
  · obtain rfl := List.mem_singleton.1 h
    cases haction
  · cases h

theorem not_removesMesh_of_mem_operatorSetup
    (h : stage ∈ Conductor.undoing (p.operatorSetup tool)) : ¬ p.RemovesMesh stage := by
  obtain ⟨undone, hmem, hundo⟩ := mem_undoing_iff.1 h
  rw [operatorSetup_eq] at hmem
  rcases List.mem_append.1 hmem with hgrant | happlied
  · obtain ⟨g, -, rfl⟩ := List.mem_map.1 hgrant
    cases hundo
  · intro hremoves
    have hname := hremoves.name_eq
    rw [Stage.name_of_undo hundo] at hname
    have hnames : ∀ name ∈ operatorNames, ¬ (Stage.undoName name = "delete-control-plane" ∨
        Stage.undoName name = "delete-member-roll") := by decide
    exact hnames undone.name (applied_of_mem_operatorStages happlied).1 hname

/-- Once the control plane's namespace is deleted nothing in it is. -/
def InOrder (p : Plan) (earlier later : Stage) : Prop :=
  p.RemovesMesh later → ∀ ns manifest, later.action = .deleteManifest (some ns) manifest →
    earlier.action ≠ .deleteNamespace ns

theorem InOrder.of_spares {earlier later : Stage} (h : p.SparesNamespace earlier) :
    p.InOrder earlier later := by
  intro hremoves ns manifest haction
  obtain ⟨manifest', haction'⟩ := hremoves.action_eq
  cases haction.symm.trans haction'
  exact h

theorem InOrder.of_not_removesMesh {earlier later : Stage} (h : ¬ p.RemovesMesh later) :
    p.InOrder earlier later :=
  fun hremoves => absurd hremoves h

theorem pairwise_inOrder {front back : List Stage}
    (hfront : ∀ stage ∈ front, p.SparesNamespace stage)
    (hback : ∀ stage ∈ back, ¬ p.RemovesMesh stage) : (front ++ back).Pairwise p.InOrder := by
  refine List.pairwise_append.2 ⟨?_, ?_, ?_⟩
  · exact List.pairwise_of_forall_mem_list fun earlier hmem _ _ => .of_spares (hfront earlier hmem)
  · exact List.pairwise_of_forall_mem_list fun _ _ later hmem =>
      .of_not_removesMesh (hback later hmem)
  · exact fun earlier hmem _ _ => .of_spares (hfront earlier hmem)

theorem undo_of_mem_undoing_ite {selected : Bool} {undone : Stage}
    (h : stage ∈ Conductor.undoing (if selected then [undone] else [])) :
    undone.undo? = some stage := by
  obtain ⟨found, hfound, hundo⟩ := mem_undoing_iff.1 h
  obtain rfl := List.mem_singleton.1 (List.mem_ite_nil_right.1 hfound).2
  exact hundo

/-- What an uninstall does before it deletes the control plane's namespace. -/
def removalFront (p : Plan) : List Stage :=
  Conductor.undoing (if p.selection.controlPlane then [p.memberRollApply] else []) ++
    Conductor.undoing (p.workloads.map p.namespaceCreation) ++
    Conductor.undoing (if p.selection.controlPlane then [p.controlPlaneApply] else [])

/-- What it does from then on. -/
def removalBack (p : Plan) (tool : ClusterTool) : List Stage :=
  Conductor.undoing
      (if p.selection.controlPlane then [p.namespaceCreation p.controlPlane.ns] else []) ++
    Conductor.undoing (if p.selection.operators then p.operatorSetup tool else []) ++ p.cleanup

theorem removal_eq : p.removal tool = p.removalFront ++ p.removalBack tool := by
  have hsplit : (if p.selection.controlPlane then
        [p.namespaceCreation p.controlPlane.ns, p.controlPlaneApply] else []) =
      (if p.selection.controlPlane then [p.namespaceCreation p.controlPlane.ns] else []) ++
        if p.selection.controlPlane then [p.controlPlaneApply] else [] := by
    split <;> rfl
  have hremoval : p.removal tool = Conductor.undoing (p.lasting tool) ++ p.cleanup := rfl
  rw [hremoval, lasting, hsplit]
  simp only [Conductor.undoing_append, removalFront, removalBack, List.append_assoc]

theorem spares_of_mem_removalFront (h : stage ∈ p.removalFront) : p.SparesNamespace stage := by
  rcases List.mem_append.1 h with h | hcontrolPlane
  · rcases List.mem_append.1 h with hmemberRoll | hworkload
    · exact RemovesMesh.spares (.inr (undo_of_mem_undoing_ite hmemberRoll))
    · exact spares_of_mem_workloads hworkload
  · exact RemovesMesh.spares (.inl (undo_of_mem_undoing_ite hcontrolPlane))

theorem not_removesMesh_of_mem_removalBack (h : stage ∈ p.removalBack tool) :
    ¬ p.RemovesMesh stage := by
  rcases List.mem_append.1 h with h | hcleanup
  · rcases List.mem_append.1 h with hnamespace | hoperators
    · exact not_removesMesh_of_undo_namespaceCreation (undo_of_mem_undoing_ite hnamespace)
    · split at hoperators
      · exact not_removesMesh_of_mem_operatorSetup hoperators
      · cases hoperators
  · exact not_removesMesh_of_mem_cleanup hcleanup

theorem pairwise_removal : (p.removal tool).Pairwise p.InOrder := by
  rw [removal_eq]
  exact pairwise_inOrder (fun _ => spares_of_mem_removalFront)
    fun _ => not_removesMesh_of_mem_removalBack

/-- An uninstall undoes what the install brought, the smoke workload apart, from the last stage to
the first, and then cleans up. Each of its stages waits for absence at the pace of deletions, and
none removes the control plane or the member roll from a namespace that has been deleted. -/
theorem removal_mirrors_installation (p : Plan) (tool : ClusterTool) :
    (∃ deletions, p.removal tool = deletions ++ p.cleanup ∧
      List.Forall₂ (fun deletion creation => deletion.action.Reverses creation.action) deletions
        ((p.installation tool).filter p.taken).reverse) ∧
    (∀ stage ∈ p.installation tool, p.taken stage = false →
      (∃ g ∈ p.operators.grants, stage = grantStage tool g) ∨ stage = p.smokeVerify ∨
        p.smokeVerify.undo? = some stage) ∧
    (∀ stage ∈ p.removal tool, p.AwaitsGone stage) ∧
    (p.removal tool).Pairwise p.InOrder := by
  refine ⟨?_, ?_, fun stage => awaitsGone_of_mem_removal, pairwise_removal⟩
  · refine ⟨Conductor.undoing (p.lasting tool), rfl, ?_⟩
    rw [filter_taken_installation, ← List.filter_reverse]
    exact Stage.forall₂_filterMap_undo
  · intro stage hmem htaken
    rcases List.mem_append.1 hmem with hlasting | hsmoke
    · left
      apply grant_of_not_brings hlasting
      simpa [taken, ne_smokeVerify_of_mem_lasting hlasting] using htaken
    · right
      split at hsmoke
      · next verify teardown hpair =>
        obtain ⟨rfl, hteardown⟩ := eq_of_smokePair hpair
        rw [List.mem_cons, List.mem_singleton] at hsmoke
        rcases hsmoke with rfl | rfl
        · exact .inl rfl
        · exact .inr hteardown
      · cases hsmoke

end Plan

end MeshTestbed
