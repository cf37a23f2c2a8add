import MeshTestbed.Plan.Validation
import MeshTestbed.Proofs.Plan.Naming

namespace MeshTestbed

def Pace.IsWaitable (pace : Pace) : Prop :=
  0 < pace.interval.toNanos ∧ pace.interval.toNanos ≤ pace.timeout.toNanos

instance {pace : Pace} : Decidable pace.IsWaitable := inferInstanceAs (Decidable (_ ∧ _))

structure Pacing.IsWaitable (waits : Pacing) : Prop where
  operatorPods : waits.operatorPods.IsWaitable
  controlPlane : waits.controlPlane.IsWaitable
  memberRoll : waits.memberRoll.IsWaitable
  smoke : waits.smoke.IsWaitable
  deletion : waits.deletion.IsWaitable

structure ConditionDemand.IsComplete (demand : ConditionDemand) : Prop where
  type : Text.isBlankText demand.type = false
  status : Text.isBlankText demand.status = false

theorem Pace.IsWaitable.fault_applyTo {pace : Pace} {wait : Wait} (hpace : pace.IsWaitable)
    (hgoal : (pace.applyTo wait).goalFault? = none) : (pace.applyTo wait).fault? = none := by
  have hpauses : (pace.applyTo wait).interval.isZero = false := by
    have hne : pace.interval.toNanos ≠ 0 := Nat.ne_of_gt hpace.1
    simpa [Pace.applyTo, Wait.paced, Span.isZero] using hne
  have hlasts : ¬ (pace.applyTo wait).timeout.toNanos < (pace.applyTo wait).interval.toNanos :=
    Nat.not_lt.2 hpace.2
  rw [Wait.fault?, if_neg (by simp [hpauses]), if_neg hlasts, hgoal]

theorem ConditionDemand.IsComplete.goalFault {demand : ConditionDemand} {wait : Wait}
    (hdemand : demand.IsComplete) (hgoal : wait.goal = .condition demand)
    (htarget : wait.target.isNamed = true) : wait.goalFault? = none := by
  simp only [Wait.goalFault?, hgoal, hdemand.type, hdemand.status, htarget, Bool.or_self,
    Bool.false_eq_true, if_false, if_true]

namespace Stage

variable {stage : Stage}

theorem faultless_of_waits_none (hname : Text.isBlankText stage.name = false)
    (hprogram : stage.lacksProgram = false) (hreadiness : stage.readiness = none)
    (hteardown : stage.teardownReadiness = none) : stage.Faultless := by
  refine ⟨hname, hprogram, fun wait hwait => ?_, fun wait hwait => ?_⟩
  · cases hreadiness.symm.trans hwait
  · cases hteardown.symm.trans hwait

theorem faultless_applyFrom {name path : String} {ns : Option String}
    (hname : Text.isBlankText name = false) : (applyFrom name ns path).Faultless :=
  faultless_of_waits_none hname rfl rfl rfl

theorem isBlankText_append {word rest : String} (hword : Text.isBlankText word = false) :
    Text.isBlankText (word ++ rest) = false := by
  rw [Text.isBlankText, String.toList_append, List.all_append, Bool.and_eq_false_iff]
  exact .inl hword

theorem Faultless.awaiting {wait : Wait} {policy : TimeoutResponse} (h : stage.Faultless)
    (hwait : wait.fault? = none) : (stage.awaiting wait policy).Faultless := by
  refine ⟨h.named, h.program, fun found hfound => ?_, h.teardown⟩
  obtain rfl : wait = found := Option.some.inj hfound
  exact hwait

theorem Faultless.undoneBy {wait : Wait} {policy : TimeoutResponse} (h : stage.Faultless)
    (hwait : wait.fault? = none) : (stage.undoneBy wait policy).Faultless := by
  refine ⟨h.named, h.program, h.readiness, fun found hfound => ?_⟩
  obtain rfl : wait = found := Option.some.inj hfound
  exact hwait

/-- What is repeated in a list is repeated in its front, if the rest is all different and new. -/
theorem repeatedNames_append_of_nodup {seen front back : List String} (hback : back.Nodup)
    (hnew : ∀ name ∈ back, name ∉ seen ∧ name ∉ front) :
    repeatedNames seen (front ++ back) = repeatedNames seen front := by
  induction front generalizing seen with
  | nil => exact repeatedNames_eq_nil_iff.2 ⟨hback, fun name hname => (hnew name hname).1⟩
  | cons first front ih =>
    -- What was seen grows by `first`, and nothing behind is called like it.
    have hrest : ∀ name ∈ back, name ∉ first :: seen ∧ name ∉ front := by
      intro name hname
      obtain ⟨hseen, hfront⟩ := hnew name hname
      exact ⟨List.not_mem_cons_of_ne_of_not_mem (List.ne_of_not_mem_cons hfront) hseen,
        List.not_mem_of_not_mem_cons hfront⟩
    have hrepeated : ∀ name ∈ back, name ∉ seen ∧ name ∉ front := fun name hname =>
      ⟨(hnew name hname).1, (hrest name hname).2⟩
    rw [List.cons_append, repeatedNames, repeatedNames, ih hrest, ih hrepeated]

/-- Of faultless stages only the names can be found fault with. -/
theorem checkAll_of_faultless {stages : List Stage} (h : ∀ stage ∈ stages, stage.Faultless) :
    checkAll stages =
      if repeatedNames [] (names stages) = [] then .ok ()
      else .error (.config (.duplicateStages (repeatedNames [] (names stages)))) := by
  have hfault : stages.findSome? fault? = none :=
    List.findSome?_eq_none_iff.2 fun stage hstage => fault_eq_none_iff.2 (h stage hstage)
  unfold checkAll names
  rw [hfault]
  cases repeatedNames [] (stages.map (·.name)) <;> rfl

end Stage

namespace Plan

open Stage (names)

variable {p : Plan} {tool : ClusterTool} {stage : Stage}

/-- The plan's waits have time to run, and what they ask of the mesh can be asked. -/
structure IsWaitable (p : Plan) : Prop where
  waits : p.waits.IsWaitable
  installed : p.controlPlane.installed.IsComplete
  ready : p.memberRoll.ready.IsComplete

theorem standard_isWaitable : standard.IsWaitable := by
  refine ⟨⟨?_, ?_, ?_, ?_, ?_⟩, ⟨?_, ?_⟩, ⟨?_, ?_⟩⟩
  all_goals decide

theorem IsWaitable.tornDown {resource : Target} {ns : Option String} (h : p.IsWaitable)
    (hstage : stage.Faultless) : (p.tornDown stage resource ns).Faultless :=
  hstage.undoneBy (h.waits.deletion.fault_applyTo rfl)

theorem faultless_grantStage {g : Grant} (htool : Text.isBlankText tool.program = false) :
    (grantStage tool g).Faultless := by
  have hword : Text.isBlankText "grant-anyuid-" = false := by decide
  have hname : Text.isBlankText ("grant-anyuid-" ++ g.ns ++ "-" ++ g.serviceAccount) = false :=
    Stage.isBlankText_append (Stage.isBlankText_append (Stage.isBlankText_append hword))
  exact Stage.faultless_of_waits_none hname htool rfl rfl

theorem IsWaitable.namespaceCreation {ns : String} (h : p.IsWaitable) :
    (p.namespaceCreation ns).Faultless := by
  have hword : Text.isBlankText "create-namespace-" = false := by decide
  have hname : Text.isBlankText ("create-namespace-" ++ ns) = false :=
    Stage.isBlankText_append hword
  exact h.tornDown (Stage.faultless_of_waits_none hname rfl rfl rfl)

theorem IsWaitable.of_mem_operatorStages (h : p.IsWaitable) (hmem : stage ∈ p.operatorStages) :
    stage.Faultless := by
  obtain ⟨applied, happlied, hstage⟩ := mem_of_mem_mapLast hmem
  have hfaultless : applied.Faultless := by
    unfold operatorApplies at happlied
    split at happlied
    · obtain ⟨⟨role, path⟩, -, rfl⟩ := List.mem_map.1 happlied
      have hword : Text.isBlankText "apply-subscription-" = false := by decide
      have hname : Text.isBlankText ("apply-subscription-" ++ role) = false :=
        Stage.isBlankText_append hword
      exact h.tornDown (Stage.faultless_applyFrom hname)
    · obtain rfl := List.mem_singleton.1 happlied
      have hname : Text.isBlankText "apply-operator" = false := by decide
      exact h.tornDown (Stage.faultless_applyFrom hname)
  rcases hstage with rfl | rfl
  · exact hfaultless
  · exact hfaultless.awaiting (h.waits.operatorPods.fault_applyTo rfl)

theorem IsWaitable.awaiting {name path : String} {ns scope : Option String} {wait : Wait}
    {policy : TimeoutResponse} {resource : Target} (h : p.IsWaitable)
    (hname : Text.isBlankText name = false) (hwait : wait.fault? = none) :
    (p.tornDown ((Stage.applyFrom name ns path).awaiting wait policy) resource scope).Faultless :=
  h.tornDown ((Stage.faultless_applyFrom hname).awaiting hwait)

theorem IsWaitable.smokeVerify (h : p.IsWaitable) : p.smokeVerify.Faultless :=
  have hname : Text.isBlankText "apply-smoke-workload" = false := by decide
  h.awaiting hname (h.waits.smoke.fault_applyTo rfl)

theorem IsWaitable.of_mem_lasting (h : p.IsWaitable) (htool : Text.isBlankText tool.program = false)
    (hmem : stage ∈ p.lasting tool) : stage.Faultless := by
  rcases mem_lasting_cases hmem with ⟨g, -, rfl⟩ | happlied | ⟨ns, rfl⟩ | rfl | rfl
  · exact faultless_grantStage htool
  · exact h.of_mem_operatorStages happlied
  · exact h.namespaceCreation
  · have hname : Text.isBlankText "apply-control-plane" = false := by decide
    exact h.awaiting hname (h.waits.controlPlane.fault_applyTo (h.installed.goalFault rfl rfl))
  · have hname : Text.isBlankText "apply-member-roll" = false := by decide
    exact h.awaiting hname (h.waits.memberRoll.fault_applyTo (h.ready.goalFault rfl rfl))

theorem IsWaitable.of_mem_installation (h : p.IsWaitable)
    (htool : Text.isBlankText tool.program = false) (hmem : stage ∈ p.installation tool) :
    stage.Faultless := by
  rw [installation_eq, kept] at hmem
  rcases List.mem_append.1 hmem with hkept | hteardown
  · rcases List.mem_append.1 hkept with hlasting | hverify
    · exact h.of_mem_lasting htool hlasting
    · obtain ⟨pair, hpair, rfl⟩ := Option.map_eq_some_iff.1 (Option.mem_toList.1 hverify)
      rw [(eq_of_smokePair hpair).1]
      exact h.smokeVerify
  · exact h.smokeVerify.undo (undo_of_mem_removed hteardown)

theorem repeatedNames_installation :
    Stage.repeatedNames [] (names (p.installation tool)) = Stage.repeatedNames [] p.grantNames := by
  rw [installation_eq_grants, Stage.names_append, names_grantStages]
  exact Stage.repeatedNames_append_of_nodup nodup_names_afterGrants fun name hname =>
    ⟨List.not_mem_nil, not_mem_grantNames hname⟩

/-- Where every wait can be waited and no grant is listed twice, an install passes its check exactly
if no grant's namespace and service account run into those of another one. Otherwise it is refused
for the names that such grants repeat, and for nothing else. -/
theorem installable_iff_grants_apart (hwaitable : p.IsWaitable)
    (hdistinct : p.operators.grants.Nodup) (htool : Text.isBlankText tool.program = false) :
    (Stage.checkAll (p.installation tool) = .ok () ↔
      (p.selection.operators = true →
        p.operators.grants.Pairwise fun g h => ¬ g.RunsInto h ∧ ¬ h.RunsInto g)) ∧
    ∀ e, Stage.checkAll (p.installation tool) = .error e →
      e = .config (.duplicateStages (Stage.repeatedNames [] p.grantNames)) := by
  have hnames : Stage.repeatedNames [] p.grantNames = [] ↔ p.grantNames.Nodup := by
    simp [Stage.repeatedNames_eq_nil_iff]
  rw [Stage.checkAll_of_faultless fun stage => hwaitable.of_mem_installation htool,
    repeatedNames_installation, ← nodup_grantNames_iff hdistinct, ← hnames]
  split
  · next hnone => simp [hnone]
  · next hrepeated =>
    refine ⟨iff_of_false (by simp) hrepeated, fun e he => ?_⟩
    cases he
    rfl

def granting (grants : List Grant) : Plan :=
  { standard with operators := { standard.operators with grants } }

theorem granting_isWaitable {grants : List Grant} : (granting grants).IsWaitable :=
  ⟨standard_isWaitable.waits, standard_isWaitable.installed, standard_isWaitable.ready⟩

/-- Grants with many hyphens, all of them apart. -/
def hyphenated : Plan :=
  granting [⟨"build-bot", "mesh-demo"⟩, ⟨"bot", "mesh"⟩, ⟨"build-bot", "mesh"⟩]

theorem installable_iff_grants_apart_of_hyphenated :
    hyphenated.IsWaitable ∧ hyphenated.operators.grants.Nodup ∧
      Stage.checkAll (hyphenated.installation {}) = .ok () := by
  have hdistinct : hyphenated.operators.grants.Nodup := by decide
  have hnames : hyphenated.grantNames.Nodup := by decide
  have htool : Text.isBlankText ({} : ClusterTool).program = false := by decide
  exact ⟨granting_isWaitable, hdistinct,
    (installable_iff_grants_apart granting_isWaitable hdistinct htool).1.2
      ((nodup_grantNames_iff hdistinct).1 hnames)⟩

/-- The account `build-bot` of `mesh-demo`, and `demo-build-bot` of `mesh`. -/
def misread : Plan := granting [⟨"build-bot", "mesh-demo"⟩, ⟨"demo-build-bot", "mesh"⟩]

theorem not_installable_of_misread :
    misread.fault? = none ∧ misread.IsWaitable ∧ misread.operators.grants.Nodup ∧
      Stage.checkAll (misread.installation {}) =
        .error (.config (.duplicateStages ["grant-anyuid-mesh-demo-build-bot"])) :=
  ⟨by decide +kernel, granting_isWaitable, by decide, by decide +kernel⟩

end Plan

end MeshTestbed
