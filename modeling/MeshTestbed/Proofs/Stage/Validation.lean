import MeshTestbed.Stage.Validation
import Mathlib.Data.List.Nodup

namespace MeshTestbed.Stage

variable {stages : List Stage} {stage undoing : Stage} {e : RunError}

/-- The stage has a name, a program where it needs one, and waits that can be waited. -/
structure Faultless (stage : Stage) : Prop where
  named : Text.isBlankText stage.name = false
  program : stage.lacksProgram = false
  readiness : ∀ wait, stage.readiness = some wait → wait.fault? = none
  teardown : ∀ wait, stage.teardownReadiness = some wait → wait.fault? = none

theorem fault_eq_none_iff : stage.fault? = none ↔ stage.Faultless := by
  have hwait : ∀ wait? : Option Wait, wait?.bind Wait.fault? = none ↔
      ∀ wait, wait? = some wait → wait.fault? = none := fun _ => Option.bind_eq_none_iff
  unfold fault?
  constructor
  · intro h
    split at h
    · cases h
    next hnamed =>
    split at h
    · cases h
    next hprogram =>
    obtain ⟨hreadiness, hteardown⟩ := Option.or_eq_none_iff.1 (Option.map_eq_none_iff.1 h)
    exact ⟨Bool.eq_false_iff.2 hnamed, Bool.eq_false_iff.2 hprogram, (hwait _).1 hreadiness,
      (hwait _).1 hteardown⟩
  · intro h
    rw [if_neg (by simp [h.named]), if_neg (by simp [h.program])]
    exact Option.map_eq_none_iff.2
      (Option.or_eq_none_iff.2 ⟨(hwait _).2 h.readiness, (hwait _).2 h.teardown⟩)

theorem isBlankText_undoName {name : String} : Text.isBlankText (undoName name) = false := by
  have hfirst : ∀ (first : Char) (front rest : List Char), Text.isBlank first = false →
      (first :: front ++ rest).all Text.isBlank = false := by
    intro first front rest hfirst
    simp [hfirst]
  unfold undoName Text.isBlankText
  split
  all_goals
    rw [String.toList_append]
    exact hfirst _ _ _ (by decide)

theorem Faultless.undo (h : stage.Faultless) (hundo : stage.undo? = some undoing) :
    undoing.Faultless := by
  obtain ⟨action, haction, rfl⟩ := Option.map_eq_some_iff.1 hundo
  refine ⟨isBlankText_undoName, ?_, h.teardown, fun _ hnone => by cases hnone⟩
  unfold Action.undo? at haction
  split at haction <;> cases haction <;> rfl

theorem repeatedNames_eq_nil_iff {seen names : List String} :
    repeatedNames seen names = [] ↔ names.Nodup ∧ ∀ name ∈ names, name ∉ seen := by
  induction names generalizing seen with
  | nil => simp [repeatedNames]
  | cons name rest ih =>
    rw [List.nodup_cons, List.forall_mem_cons, repeatedNames]
    split
    · next hseen => simp [List.contains_iff_mem.1 hseen]
    · next hnew =>
      rw [ih]
      have hnew : name ∉ seen := fun hmem => hnew (List.contains_iff_mem.2 hmem)
      constructor
      · rintro ⟨hnodup, hunseen⟩
        refine ⟨⟨fun hmem => hunseen name hmem (List.mem_cons_self ..), hnodup⟩, hnew, ?_⟩
        exact fun other hother hmem => hunseen other hother (List.mem_cons_of_mem _ hmem)
      · rintro ⟨⟨hname, hnodup⟩, -, hunseen⟩
        refine ⟨hnodup, fun other hother hmem => ?_⟩
        rcases List.mem_cons.1 hmem with rfl | hmem
        · exact hname hother
        · exact hunseen other hother hmem

theorem checkAll_eq_ok_iff : checkAll stages = .ok () ↔
    (∀ stage ∈ stages, stage.Faultless) ∧ (stages.map (·.name)).Nodup := by
  have hfaultless : stages.findSome? fault? = none ↔ ∀ stage ∈ stages, stage.Faultless := by
    simp only [List.findSome?_eq_none_iff, fault_eq_none_iff]
  have hnodup : repeatedNames [] (stages.map (·.name)) = [] ↔ (stages.map (·.name)).Nodup := by
    simp [repeatedNames_eq_nil_iff]
  rw [← hfaultless, ← hnodup]
  unfold checkAll
  split
  · next hfault => simp [hfault]
  · next hfault =>
    split
    · next hnames => exact ⟨fun _ => ⟨hfault, hnames⟩, fun _ => rfl⟩
    · next hrepeated => exact iff_of_false (by simp) fun h => hrepeated h.2

theorem waitFault_of_checkAll (hchecked : checkAll stages = .ok ()) (hmem : stage ∈ stages)
    {wait : Wait} (hwait : stage.readiness = some wait) : wait.fault? = none :=
  ((checkAll_eq_ok_iff.1 hchecked).1 stage hmem).readiness wait hwait

/-- The check of a list finds fault with the list or with a wait in it. -/
theorem checkAll_error (h : checkAll stages = .error e) :
    (∃ cause, e = .config cause) ∨ ∃ cause, e = .malformedWait cause := by
  unfold checkAll at h
  split at h
  · next e' hfault =>
    cases h
    obtain ⟨stage, -, hstage⟩ := List.exists_of_findSome?_eq_some hfault
    unfold fault? at hstage
    split at hstage
    · cases hstage
      exact .inl ⟨_, rfl⟩
    split at hstage
    · cases hstage
      exact .inl ⟨_, rfl⟩
    · obtain ⟨cause, -, rfl⟩ := Option.map_eq_some_iff.1 hstage
      exact .inr ⟨cause, rfl⟩
  · split at h
    · cases h
    · cases h
      exact .inl ⟨_, rfl⟩

end MeshTestbed.Stage
