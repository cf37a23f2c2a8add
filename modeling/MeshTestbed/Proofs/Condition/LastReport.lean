import MeshTestbed.Proofs.Condition.Demand
import MeshTestbed.Proofs.Condition.Extraction

namespace MeshTestbed

namespace Condition

variable {c : Condition} {line : List Char} {raw : String}

/-- What is read from a line has a type of one word, a status, and no blanks around its fields; a
field that was missing is empty. -/
structure IsTidy (c : Condition) : Prop where
  type_ne : c.type ≠ ""
  type_chars : ∀ x ∈ c.type.toList, Text.isBlank x = false ∧ x ≠ '='
  status_ne : c.status ≠ ""
  status_trim : Text.trimmed c.status = c.status
  reason_trim : Text.trimmed c.reason = c.reason
  reason_present : c.reason ≠ "<no value>"
  message_trim : Text.trimmed c.message = c.message
  message_present : c.message ≠ "<no value>"

theorem trimmed_of_fieldText {s : String} (h : fieldText s.toList = s) :
    Text.trimmed s = s ∧ s ≠ "<no value>" := by
  obtain ⟨htrim, hpresent⟩ := fieldText_eq_self_iff.1 h
  refine ⟨?_, ?_⟩
  · rw [Text.trimmed, htrim, String.ofList_toList]
  · rintro rfl
    exact hpresent rfl

theorem isTidy_of_ofLine (h : ofLine? line = some c) : c.IsTidy := by
  have hlegible := isLegible_of_ofLine h
  obtain ⟨hreason, hreason'⟩ := trimmed_of_fieldText hlegible.reason_text
  obtain ⟨hmessage, hmessage'⟩ := trimmed_of_fieldText (fieldText_message_of_ofLine h)
  exact ⟨hlegible.type_ne, hlegible.type_chars, hlegible.status_ne,
    by rw [Text.trimmed, hlegible.status_trim, String.ofList_toList],
    hreason, hreason', hmessage, hmessage'⟩

/-- A line of the text reports the condition, and no line behind it reports one of its type. -/
def IsLastReport (raw : String) (c : Condition) : Prop :=
  ∃ before line after, Text.lines raw.toList = before ++ line :: after ∧ ofLine? line = some c ∧
    ∀ later ∈ after, ∀ d, ofLine? later = some d → d.type ≠ c.type

theorem latest_reports_iff {type : String} :
    Conditions.latest? (reports raw.toList) type = some c ↔ IsLastReport raw c ∧ c.type = type := by
  unfold Conditions.latest? reports IsLastReport
  -- in the reversed text the later lines come first, so the search stops at the last report
  rw [← List.filterMap_reverse, List.find?_eq_some_iff_append]
  constructor
  · rintro ⟨htype, later, earlier, hreports, hlater⟩
    obtain ⟨after, rest, hlines, hafter, hrest⟩ := List.filterMap_eq_append_iff.1 hreports
    obtain ⟨silent, line, before, rfl, hsilent, hline, -⟩ := List.filterMap_eq_cons_iff.1 hrest
    refine ⟨⟨before.reverse, line, silent.reverse ++ after.reverse, ?_, hline, ?_⟩,
      by simpa using htype⟩
    · rw [← List.reverse_reverse (Text.lines raw.toList), hlines]
      simp
    · intro l hl d hd
      rcases List.mem_append.1 hl with hl | hl
      · rw [hsilent l (List.mem_reverse.1 hl)] at hd
        cases hd
      · have hmem : d ∈ later := by
          rw [← hafter]
          exact List.mem_filterMap.2 ⟨l, List.mem_reverse.1 hl, hd⟩
        have hne := hlater d hmem
        obtain rfl : c.type = type := by simpa using htype
        simpa using hne
  · rintro ⟨⟨before, line, after, hlines, hline, hafter⟩, rfl⟩
    refine ⟨by simp, after.reverse.filterMap ofLine?, before.reverse.filterMap ofLine?, ?_, ?_⟩
    · rw [hlines]
      simp [hline]
    · intro d hd
      obtain ⟨l, hl, hread⟩ := List.mem_filterMap.1 hd
      simpa using hafter l (List.mem_reverse.1 hl) d hread

end Condition

namespace Conditions

variable {cs ds : Conditions} {c : Condition} {raw : String}

theorem types_put : (cs.put c).map (·.type) =
    if c.type ∈ cs.map (·.type) then cs.map (·.type) else cs.map (·.type) ++ [c.type] := by
  split
  · next hmem => exact types_put_of_mem hmem
  · next hmem => rw [put_of_not_mem hmem, List.map_append, List.map_singleton]

theorem types_foldl_put : (ds.foldl put []).map (·.type) = (ds.map (·.type)).eraseDups := by
  -- from the end: the last condition is put into what those before it left
  induction ds using List.reverseRecOn with
  | nil => rfl
  | append_singleton ds c ih =>
    rw [List.foldl_append, List.foldl_cons, List.foldl_nil, types_put, ih, List.map_append,
      List.eraseDups_append, List.map_singleton]
    by_cases hmem : c.type ∈ ds.map (·.type)
    · have hold : [c.type].removeAll (ds.map (·.type)) = [] := by
        simpa [List.removeAll] using hmem
      rw [if_pos (List.mem_eraseDups.2 hmem), hold, List.eraseDups_nil, List.append_nil]
    · have hnew : [c.type].removeAll (ds.map (·.type)) = [c.type] := by
        simpa [List.removeAll] using hmem
      rw [if_neg (mt List.mem_eraseDups.1 hmem), hnew]
      rfl

theorem types_ofOutput : (ofOutput raw).map (·.type) =
    ((Condition.reports raw.toList).map (·.type)).eraseDups :=
  types_foldl_put

theorem mem_ofOutput_iff : c ∈ ofOutput raw ↔ Condition.IsLastReport raw c := by
  have hmem : c ∈ ofOutput raw ↔ (ofOutput raw).get? c.type = some c := by
    rw [get_eq_some_iff nodup_types_ofOutput, and_iff_left rfl]
  rw [hmem, get_ofOutput, Condition.latest_reports_iff, and_iff_left rfl]

end Conditions

namespace ConditionDemand

variable {demand : ConditionDemand} {c : Condition} {raw : String}

/-- The condition has the required status, and what is required of its reason is a part of its
reason or of its message. -/
def Accepts (demand : ConditionDemand) (c : Condition) : Prop :=
  c.status = demand.status ∧ ∀ part, demand.reason = some part → part ≠ "" →
    part.toList <:+: c.reason.toList ∨ part.toList <:+: c.message.toList

theorem holdsFor_iff : demand.holdsFor c = true ↔ demand.Accepts c := by
  unfold holdsFor Accepts
  rw [Bool.and_eq_true, beq_iff_eq]
  refine and_congr_right fun _ => ?_
  cases demand.reason with
  | none => simp
  | some reason =>
    simp only [Bool.or_eq_true, Text.contains, Text.occurs_iff_isInfix, Option.some.injEq]
    constructor
    · rintro hpart part rfl -
      exact hpart
    · intro hpart
      by_cases hreason : reason = ""
      · subst hreason
        exact .inl List.nil_infix
      · exact hpart reason rfl hreason

theorem isMet_iff_lastReport : demand.isMet (Conditions.ofOutput raw) = true ↔
    ∃ c, Condition.IsLastReport raw c ∧ c.type = demand.type ∧ demand.Accepts c := by
  simp only [isMet_iff, Condition.latest_reports_iff, holdsFor_iff, and_assoc]

end ConditionDemand

namespace Conditions

/-- The conditions of a text have distinct types, in the order in which these are reported first
(`List.eraseDups` keeps first occurrences), and each is what the last report of its type says, with
tidy fields. A demand is met exactly if the last line that reports its type reports what it
accepts. -/
theorem ofOutput_last_reports (raw : String) :
    ((ofOutput raw).map (·.type)).Nodup ∧
      (ofOutput raw).map (·.type) =
        ((Condition.reports raw.toList).map (·.type)).eraseDups ∧
      (∀ c, c ∈ ofOutput raw ↔ Condition.IsLastReport raw c) ∧
      (∀ c ∈ ofOutput raw, c.IsTidy) ∧
      ∀ demand : ConditionDemand, demand.isMet (ofOutput raw) = true ↔
        ∃ c, Condition.IsLastReport raw c ∧ c.type = demand.type ∧ demand.Accepts c := by
  refine ⟨nodup_types_ofOutput, types_ofOutput, fun c => mem_ofOutput_iff, fun c hc => ?_,
    fun demand => ConditionDemand.isMet_iff_lastReport⟩
  obtain ⟨line, hline, -⟩ := mem_ofOutput hc
  exact Condition.isTidy_of_ofLine hline

theorem ofOutput_last_reports_of_repeated : ∃ raw : String,
    (ofOutput raw).map (·.type) = ["Ready", "Installed"] ∧
      (∀ c ∈ ofOutput raw, c.IsTidy) ∧
      (⟨"Ready", "True", some "done"⟩ : ConditionDemand).isMet (ofOutput raw) = true ∧
      (⟨"Ready", "False", none⟩ : ConditionDemand).isMet (ofOutput raw) = false := by
  obtain ⟨-, htypes, -, htidy, hmet⟩ := ofOutput_last_reports
    "Ready=False\nInstalled=True\nReady=True, reason=Ok, message=all done"
  have hlast : Condition.IsLastReport
      "Ready=False\nInstalled=True\nReady=True, reason=Ok, message=all done"
      ⟨"Ready", "True", "Ok", "all done"⟩ :=
    ⟨["Ready=False".toList, "Installed=True".toList],
      "Ready=True, reason=Ok, message=all done".toList, [], by decide +kernel, by decide +kernel,
      by simp⟩
  refine ⟨_, htypes.trans (by decide +kernel), htidy, (hmet _).2 ⟨_, hlast, rfl, rfl, ?_⟩, ?_⟩
  · rintro part ⟨rfl⟩ -
    exact .inr ⟨"all ".toList, [], by decide⟩
  · decide +kernel

end Conditions

end MeshTestbed
