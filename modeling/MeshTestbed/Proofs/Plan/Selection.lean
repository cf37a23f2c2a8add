import MeshTestbed.Plan.Validation
import MeshTestbed.Proofs.Plan.Removable

namespace MeshTestbed.Plan

open Stage (names)

/-- Two plans of the same parts, with the same sections for each of them. -/
structure AgreesWith (p q : Plan) : Prop where
  selection : q.selection = p.selection
  waits : q.waits = p.waits
  audit : q.audit = p.audit
  operators : p.selection.operators = true → q.operators = p.operators
  controlPlane : p.selection.controlPlane = true →
    q.controlPlane = p.controlPlane ∧ q.memberRoll = p.memberRoll ∧ q.members = p.members
  smoke : p.selection.smoke = true → q.smoke = p.smoke

variable {p q : Plan} {tool : ClusterTool}

/-- The smoke workload's namespace is called like the control plane's. -/
def sharesNamespace (p : Plan) : Bool := p.smoke.ns = p.controlPlane.ns

def hasBlankMember (p : Plan) : Bool := p.members.toList.any Text.isBlankText

def selectsAny (p : Plan) : Bool :=
  p.selection.operators || p.selection.controlPlane || p.selection.smoke

/-- Nothing is wrong with the plan before its members' names are checked. -/
def reachesMembers (p : Plan) : Bool := p.selectsAny && p.blankFields.isEmpty

def awaitsNoContainers (p : Plan) : Bool :=
  p.selection.smoke && p.smoke.expectedContainers == some 0

theorem fault_of_reachesMembers (h : p.reachesMembers = true) : p.fault? =
    if p.hasBlankMember then some .emptyMemberNamespace
    else if p.awaitsNoContainers then some .zeroExpectedContainers
    else none := by
  obtain ⟨hselects, hnamed⟩ := Bool.and_eq_true_iff.1 h
  have hselects : ¬ (!p.selectsAny) = true := by simp [hselects]
  exact (if_neg hselects).trans (if_neg (by simp [hnamed]))

theorem fault_of_not_reachesMembers (h : p.reachesMembers = false) : p.fault? =
    if p.selectsAny then some (.emptyFields p.blankFields) else some .nothingSelected := by
  unfold fault?
  rcases hselects : p.selectsAny with _ | _
  · have hselects : (!p.selectsAny) = true := by simp [hselects]
    exact if_pos hselects
  · have hnamed : (!p.blankFields.isEmpty) = true := by simpa [reachesMembers, hselects] using h
    have hselects : ¬ (!p.selectsAny) = true := by simp [hselects]
    exact (if_neg hselects).trans (if_pos hnamed)

theorem ite_selected {α : Type} {selected : Bool} {xs ys : List α} (h : selected = true → ys = xs) :
    (if selected then ys else []) = if selected then xs else [] :=
  ite_congr rfl h fun _ => rfl

/-- The stages whose work outlasts an install, with these namespaces for the workloads. -/
def lastingWith (p : Plan) (tool : ClusterTool) (workloads : List String) : List Stage :=
  (if p.selection.operators then p.operatorSetup tool else []) ++
    (if p.selection.controlPlane then [p.namespaceCreation p.controlPlane.ns, p.controlPlaneApply]
    else []) ++
    workloads.map p.namespaceCreation ++
    (if p.selection.controlPlane then [p.memberRollApply] else [])

theorem lastingWith_inj {xs ys : List String} :
    p.lastingWith tool xs = p.lastingWith tool ys ↔ xs = ys := by
  refine ⟨fun h => ?_, congrArg _⟩
  have hcreations := List.append_cancel_left (List.append_cancel_right h)
  refine List.map_injective_iff.2 (fun ns ns' hstage => ?_) hcreations
  have haction : Action.createNamespace ns = .createNamespace ns' := congrArg Stage.action hstage
  exact Action.createNamespace.inj haction

theorem undoing_lastingWith_inj {xs ys : List String} :
    Conductor.undoing (p.lastingWith tool xs) = Conductor.undoing (p.lastingWith tool ys) ↔
      xs = ys := by
  refine ⟨fun h => ?_, fun h => by rw [h]⟩
  simp only [lastingWith, Conductor.undoing_append] at h
  have hdeletions := congrArg names (List.append_cancel_right (List.append_cancel_left h))
  rw [names_undoing_namespaceCreation, names_undoing_namespaceCreation] at hdeletions
  exact List.map_injective_iff.2 namespaceDeletion_injective (List.reverse_injective hdeletions)

theorem workloads_of_no_controlPlane (h : p.selection.controlPlane = false) :
    p.workloads = if p.selection.smoke && !p.sharesNamespace then [p.smoke.ns] else [] := by
  unfold workloads sharesNamespace
  rw [h]
  cases p.selection.smoke
  · rfl
  · by_cases hshares : p.smoke.ns = p.controlPlane.ns
    · simp [NameSet.erase, NameSet.insert, NameSet.insertSorted, NameSet.empty, hshares]
    · simp [NameSet.erase, NameSet.insert, NameSet.insertSorted, NameSet.empty, hshares]

namespace AgreesWith

variable (h : p.AgreesWith q)

include h

theorem listedNamespaces_eq : q.listedNamespaces = p.listedNamespaces := by
  unfold listedNamespaces
  rw [h.selection]
  refine congrArg _ (congrArg₂ _ (congrArg₂ _ ?_ ?_) ?_)
  · exact ite_selected fun hs => by rw [h.operators hs]
  · exact ite_selected fun hs => by rw [(h.controlPlane hs).1]
  · exact ite_selected fun hs => by rw [h.smoke hs]

theorem blankFields_eq : q.blankFields = p.blankFields := by
  have hfields : q.requiredFields = p.requiredFields := by
    unfold requiredFields
    rw [h.selection]
    refine congrArg₂ _ (congrArg₂ _ ?_ ?_) ?_
    · exact ite_selected fun hs => by rw [h.operators hs]
    · exact ite_selected fun hs => by rw [(h.controlPlane hs).1, (h.controlPlane hs).2.1]
    · exact ite_selected fun hs => by rw [h.smoke hs]
  rw [blankFields, hfields, blankFields]

theorem namespaceCreation_eq : q.namespaceCreation = p.namespaceCreation := by
  funext ns
  simp only [namespaceCreation, tornDown, goneWait, h.waits]

/-- Only the workloads' namespaces can tell the two plans' stages apart. -/
theorem lasting_eq : q.lasting tool = p.lastingWith tool q.workloads := by
  unfold lasting lastingWith
  rw [h.selection, h.namespaceCreation_eq]
  refine congrArg₂ _ (congrArg₂ _ (congrArg₂ _ ?_ ?_) rfl) ?_
  · refine ite_selected fun hs => ?_
    simp only [operatorSetup, operatorApplies, operatorsSettled, tornDown, goneWait,
      h.operators hs, h.waits]
  · refine ite_selected fun hs => ?_
    simp only [controlPlaneApply, tornDown, goneWait, (h.controlPlane hs).1, h.waits]
  · refine ite_selected fun hs => ?_
    simp only [memberRollApply, tornDown, goneWait, (h.controlPlane hs).1,
      (h.controlPlane hs).2.1, h.waits]

theorem smokePair_eq : q.smokePair? = p.smokePair? := by
  unfold smokePair?
  rw [h.selection]
  refine ite_congr rfl (fun hs => ?_) fun _ => rfl
  simp only [smokeVerify, tornDown, goneWait, h.smoke hs, h.waits]

theorem cleanup_eq : q.cleanup = p.cleanup := by
  unfold cleanup
  rw [h.selection]
  refine ite_selected fun hs => ?_
  simp only [goneWait, h.operators hs, h.waits]

theorem installation_eq_iff :
    q.installation tool = p.installation tool ↔ q.workloads = p.workloads := by
  unfold installation
  rw [h.lasting_eq, h.smokePair_eq]
  exact List.append_left_inj _ |>.trans lastingWith_inj

theorem removal_eq_iff : q.removal tool = p.removal tool ↔ q.workloads = p.workloads := by
  unfold removal
  rw [h.lasting_eq, h.cleanup_eq]
  exact List.append_left_inj _ |>.trans undoing_lastingWith_inj

theorem workloads_eq_iff : q.workloads = p.workloads ↔
    (p.selection.controlPlane = false → p.selection.smoke = true →
      q.sharesNamespace = p.sharesNamespace) := by
  rcases hcontrolPlane : p.selection.controlPlane with _ | _
  · rw [workloads_of_no_controlPlane hcontrolPlane,
      workloads_of_no_controlPlane (h.selection ▸ hcontrolPlane), h.selection]
    rcases hsmoke : p.selection.smoke with _ | _
    · simp
    · rw [h.smoke hsmoke]
      cases p.sharesNamespace <;> cases q.sharesNamespace <;> simp
  · obtain ⟨hsection, -, hmembers⟩ := h.controlPlane hcontrolPlane
    refine iff_of_true ?_ (by simp)
    unfold workloads
    rw [h.selection, hsection, hmembers]
    rcases hsmoke : p.selection.smoke with _ | _
    · rfl
    · rw [h.smoke hsmoke]

theorem selectsAny_eq : q.selectsAny = p.selectsAny := by
  rw [selectsAny, h.selection, selectsAny]

theorem awaitsNoContainers_eq : q.awaitsNoContainers = p.awaitsNoContainers := by
  unfold awaitsNoContainers
  rw [h.selection]
  rcases hsmoke : p.selection.smoke with _ | _
  · rfl
  · rw [h.smoke hsmoke]

theorem fault_eq_iff : q.fault? = p.fault? ↔
    (p.selection.controlPlane = false → p.reachesMembers = true →
      q.hasBlankMember = p.hasBlankMember) := by
  have hreaches : q.reachesMembers = p.reachesMembers := by
    rw [reachesMembers, h.selectsAny_eq, h.blankFields_eq, reachesMembers]
  rcases hmembers : p.reachesMembers with _ | _
  · rw [fault_of_not_reachesMembers hmembers,
      fault_of_not_reachesMembers (hreaches.trans hmembers), h.selectsAny_eq, h.blankFields_eq]
    simp
  · have hsame : q.fault? = p.fault? ↔ q.hasBlankMember = p.hasBlankMember := by
      rw [fault_of_reachesMembers hmembers, fault_of_reachesMembers (hreaches.trans hmembers),
        h.awaitsNoContainers_eq]
      cases p.hasBlankMember <;> cases q.hasBlankMember <;> cases p.awaitsNoContainers <;> simp
    rw [hsame]
    constructor
    · exact fun heq _ _ => heq
    · intro hunselected
      rcases hselected : p.selection.controlPlane with _ | _
      · exact hunselected hselected rfl
      · rw [hasBlankMember, (h.controlPlane hselected).2.2, hasBlankMember]

end AgreesWith

/-- Plans that agree on the parts they select list the same namespaces. Their verdicts are the same
unless a member's name is blank in one of them alone, and their stages unless one of them alone
calls the smoke workload's namespace like the control plane's. Where the control plane is selected
neither can be. -/
theorem selected_parts_decide (h : p.AgreesWith q) :
    q.listedNamespaces = p.listedNamespaces ∧
      (q.fault? = p.fault? ↔
        (p.selection.controlPlane = false → p.reachesMembers = true →
          q.hasBlankMember = p.hasBlankMember)) ∧
      ∀ tool,
        (q.installation tool = p.installation tool ↔
          (p.selection.controlPlane = false → p.selection.smoke = true →
            q.sharesNamespace = p.sharesNamespace)) ∧
        (q.removal tool = p.removal tool ↔
          (p.selection.controlPlane = false → p.selection.smoke = true →
            q.sharesNamespace = p.sharesNamespace)) :=
  ⟨h.listedNamespaces_eq, h.fault_eq_iff, fun _ =>
    ⟨h.installation_eq_iff.trans h.workloads_eq_iff, h.removal_eq_iff.trans h.workloads_eq_iff⟩⟩

def smokeAlone : Plan := { standard with selection := ⟨false, false, true⟩ }

def renamedMesh : Plan :=
  { smokeAlone with
    controlPlane := { standard.controlPlane with ns := "mesh-system" }
    members := .ofList ["mesh-demo"] }

def sharedMesh : Plan :=
  { smokeAlone with
    controlPlane := { standard.controlPlane with ns := "bookinfo" }
    members := .ofList [" "] }

theorem smokeAlone_agreesWith {controlPlane : ControlPlane} {members : NameSet} :
    smokeAlone.AgreesWith { smokeAlone with controlPlane, members } :=
  { selection := rfl
    waits := rfl
    audit := rfl
    operators := fun _ => rfl
    controlPlane := fun hselected => by cases hselected
    smoke := fun _ => rfl }

theorem selected_parts_decide_of_renamedMesh :
    smokeAlone.AgreesWith renamedMesh ∧ renamedMesh.fault? = smokeAlone.fault? ∧
      renamedMesh.installation {} = smokeAlone.installation {} ∧
      renamedMesh.removal {} = smokeAlone.removal {} := by
  have hagree : smokeAlone.AgreesWith renamedMesh := smokeAlone_agreesWith
  obtain ⟨-, hfault, hstages⟩ := selected_parts_decide hagree
  exact ⟨hagree, hfault.2 fun _ _ => by decide, (hstages {}).1.2 fun _ _ => by decide,
    (hstages {}).2.2 fun _ _ => by decide⟩

theorem unselected_parts_decide_of_sharedMesh :
    smokeAlone.AgreesWith sharedMesh ∧ sharedMesh.fault? ≠ smokeAlone.fault? ∧
      sharedMesh.installation {} ≠ smokeAlone.installation {} ∧
      sharedMesh.removal {} ≠ smokeAlone.removal {} := by
  refine ⟨smokeAlone_agreesWith, ?_, ?_, ?_⟩
  · decide +kernel
  · decide +kernel
  · decide +kernel

end MeshTestbed.Plan
