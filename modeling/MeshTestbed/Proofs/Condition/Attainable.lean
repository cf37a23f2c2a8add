import MeshTestbed.Proofs.Condition.LastReport
import MeshTestbed.Wait.Basic

namespace MeshTestbed

namespace Condition

variable {c : Condition} {line message : List Char}

theorem ofLine_quoted_heading (hlegible : c.IsLegible) :
    ofLine? ('\'' :: ' ' :: (c.heading ++ line)) = some { c with message := heard line } := by
  have htype : (((['\'', ' '] ++ c.type.toList).dropWhile Text.isBlank).dropWhile
      isQuote).dropWhile Text.isBlank = c.type.toList := by
    have hkeep : c.type.toList.dropWhile Text.isBlank = c.type.toList :=
      List.dropWhile_eq_self_iff.2 fun hword => by simp [hlegible.type_chars]
    have hquote : Text.isBlank '\'' = false ∧ isQuote '\'' = true := by decide
    have hblank : isQuote ' ' = false ∧ Text.isBlank ' ' = true := by decide
    simp only [List.cons_append, List.nil_append, List.dropWhile_cons, hquote, hblank,
      Bool.false_eq_true, if_true, if_false, hkeep]
  have hwords := unquote_heading (c := c) ['\'', ' '] line
  rw [htype] at hwords
  unfold heard
  exact ofLine_of_unquote hlegible (by simpa [heading] using hwords)

theorem heard_between_stops {part : List Char} :
    heard ('.' :: (part ++ ['.'])) = String.ofList ('.' :: (part ++ ['.'])) := by
  have hlast : ∀ x ∈ ('.' :: (part ++ ['.'])).getLast?, x = '.' := by
    intro x hx
    rw [← List.cons_append, List.getLast?_append] at hx
    simpa [eq_comm] using hx
  have hblanks : Text.trimEnd ('.' :: (part ++ ['.'])) = '.' :: (part ++ ['.']) :=
    Text.cutEnd_eq_self_iff.2 fun x hx => by rw [hlast x hx]; rfl
  have hquotes : Text.cutEnd isQuote ('.' :: (part ++ ['.'])) = '.' :: (part ++ ['.']) :=
    Text.cutEnd_eq_self_iff.2 fun x hx => by rw [hlast x hx]; rfl
  have hfield : fieldText (String.ofList ('.' :: (part ++ ['.']))).toList =
      String.ofList ('.' :: (part ++ ['.'])) := by
    rw [fieldText_eq_self_iff, String.toList_ofList]
    refine ⟨?_, fun hmissing => absurd (List.cons.inj hmissing).1 (by decide)⟩
    rw [Text.trim, Text.trimStart, List.dropWhile_cons_of_neg (by decide), hblanks]
  rw [heard, hblanks, hquotes, hblanks, ← hfield, String.toList_ofList]

end Condition

namespace ConditionDemand

variable {demand : ConditionDemand}

/-- What the demand asks for can stand on a line: a type of one word without an equals sign, a
status without blanks around it and without the mark of a reason, no line feeds. -/
structure IsReportable (demand : ConditionDemand) : Prop where
  type_chars : ∀ x ∈ demand.type.toList, Text.isBlank x = false ∧ x ≠ '='
  status_trim : Text.trimmed demand.status = demand.status
  status_line : '\n' ∉ demand.status.toList
  status_mark : ¬ ", reason=".toList <:+: demand.status.toList
  reason_line : ∀ part, demand.reason = some part → '\n' ∉ part.toList

theorem isReportable_of_isMet {raw : String}
    (h : demand.isMet (Conditions.ofOutput raw) = true) : demand.IsReportable := by
  obtain ⟨c, hlatest, hholds⟩ := isMet_iff.1 h
  obtain ⟨hreported, htype⟩ := Conditions.mem_of_latest hlatest
  obtain ⟨line, hline, -, hnewline⟩ := Condition.mem_reports hreported
  obtain ⟨hstatus, hparts⟩ := holdsFor_iff.1 hholds
  have hlegible := Condition.isLegible_of_ofLine hline
  have hinside := Condition.isInfix_of_ofLine hline
  refine ⟨?_, ?_, ?_, ?_, ?_⟩
  · rw [← htype]
    exact hlegible.type_chars
  · rw [← hstatus]
    exact (Condition.isTidy_of_ofLine hline).status_trim
  · rw [← hstatus]
    exact fun hmem => hnewline ((hinside c.status (by simp)).subset hmem)
  · rw [← hstatus]
    exact hlegible.status_mark
  · intro part hpart hmem
    have hpresent : part ≠ "" := by
      rintro rfl
      cases hmem
    rcases hparts part hpart hpresent with hreason | hmessage
    · exact hnewline ((hreason.trans (hinside c.reason (by simp))).subset hmem)
    · exact hnewline ((hmessage.trans (hinside c.message (by simp))).subset hmem)

/-- A condition that the demand accepts: its message has the required part between full stops. -/
def sample (demand : ConditionDemand) : Condition :=
  ⟨demand.type, demand.status, "",
    String.ofList ('.' :: ((demand.reason.getD "").toList ++ ['.']))⟩

def sampleLine (demand : ConditionDemand) : List Char :=
  '\'' :: ' ' :: (demand.sample.heading ++ demand.sample.message.toList)

theorem accepts_sample : demand.Accepts demand.sample := by
  refine ⟨rfl, fun part hpart _ => .inr ⟨['.'], ['.'], ?_⟩⟩
  rw [sample, String.toList_ofList, hpart]
  rfl

variable (htype : demand.type ≠ "") (hstatus : demand.status ≠ "")

include htype hstatus

theorem IsReportable.isLegible_sample (hdemand : demand.IsReportable) :
    demand.sample.IsLegible where
  type_ne := htype
  type_chars := hdemand.type_chars
  status_ne := hstatus
  status_trim := by
    rw [sample, ← String.toList_ofList (l := Text.trim _)]
    exact congrArg String.toList hdemand.status_trim
  status_mark := hdemand.status_mark
  reason_text := Condition.fieldText_of_no_blank fun _ hx => nomatch hx
  reason_mark hmark := nomatch List.infix_nil.1 hmark

theorem IsReportable.reports_sampleLine (hdemand : demand.IsReportable) :
    Condition.reports demand.sampleLine = [demand.sample] := by
  have hword : '\n' ∉ demand.type.toList := fun hmem =>
    absurd (hdemand.type_chars '\n' hmem).1 (by decide)
  have hpart : '\n' ∉ (demand.reason.getD "").toList := by
    cases hreason : demand.reason with
    | none => simp
    | some part => exact hdemand.reason_line part hreason
  have hmarks : '\n' ∉ Condition.reasonMark ∧ '\n' ∉ Condition.messageMark := by decide
  have hline : '\n' ∉ demand.sampleLine := by
    simp [sampleLine, Condition.heading, sample, hword, hdemand.status_line, hmarks, hpart]
  have hheard : Condition.heard demand.sample.message.toList = demand.sample.message := by
    rw [sample, String.toList_ofList]
    exact Condition.heard_between_stops
  rw [Condition.reports_eq, Text.readLines_line hline, List.nil_append, sampleLine,
    Condition.ofLine_quoted_heading (hdemand.isLegible_sample htype hstatus), hheard]
  rfl

theorem IsReportable.isMet_sampleLine (hdemand : demand.IsReportable) :
    demand.isMet (Conditions.ofOutput (String.ofList demand.sampleLine)) = true := by
  refine isMet_iff.2 ⟨demand.sample, ?_, holdsFor_iff.2 accepts_sample⟩
  rw [String.toList_ofList, hdemand.reports_sampleLine htype hstatus]
  exact List.find?_cons_of_pos (by simp [sample])

theorem exists_isMet_iff :
    (∃ raw, demand.isMet (Conditions.ofOutput raw) = true) ↔ demand.IsReportable := by
  constructor
  · rintro ⟨raw, hmet⟩
    exact isReportable_of_isMet hmet
  · intro hdemand
    exact ⟨_, hdemand.isMet_sampleLine htype hstatus⟩

end ConditionDemand

namespace Goal

variable {demand : ConditionDemand} {o : Completion}

theorem isOk_of_condition_met (h : ((condition demand).judge o).satisfied = true) :
    o.isOk = true := by
  by_contra hfailed
  rw [judge, if_neg hfailed, judgeFailure] at h
  simp at h

theorem exists_condition_met_iff : (∃ o, ((condition demand).judge o).satisfied = true) ↔
    ∃ raw, demand.isMet (Conditions.ofOutput raw) = true := by
  constructor
  · rintro ⟨o, hmet⟩
    refine ⟨o.stdout, ConditionDemand.isMet_iff.2 ?_⟩
    exact (condition_met_iff_latest (isOk_of_condition_met hmet)).1 hmet
  · rintro ⟨raw, hmet⟩
    exact ⟨⟨raw, "", some 0⟩, (condition_met_iff_latest rfl).2 (ConditionDemand.isMet_iff.1 hmet)⟩

end Goal

namespace Wait

variable {wait : Wait} {demand : ConditionDemand}

theorem not_blank_of_valid (hgoal : wait.goal = .condition demand) (hvalid : wait.fault? = none) :
    demand.type ≠ "" ∧ demand.status ≠ "" := by
  have hgoalFault : wait.goalFault? = none := by
    unfold fault? at hvalid
    split at hvalid
    · cases hvalid
    · split at hvalid
      · cases hvalid
      · exact hvalid
  unfold goalFault? at hgoalFault
  rw [hgoal] at hgoalFault
  constructor
  · intro hempty
    simp [hempty, Text.isBlankText] at hgoalFault
  · intro hempty
    simp [hempty, Text.isBlankText] at hgoalFault

/-- A wait for a condition that is found valid can succeed if and only if its demand is one that a
line can report, and the same decides whether any text meets the demand. -/
theorem attainable_iff_reportable (hgoal : wait.goal = .condition demand)
    (hvalid : wait.fault? = none) :
    ((∃ o, (wait.goal.judge o).satisfied = true) ↔ demand.IsReportable) ∧
      ((∃ raw, demand.isMet (Conditions.ofOutput raw) = true) ↔ demand.IsReportable) := by
  obtain ⟨htype, hstatus⟩ := not_blank_of_valid hgoal hvalid
  have htext := ConditionDemand.exists_isMet_iff htype hstatus
  rw [hgoal]
  exact ⟨Goal.exists_condition_met_iff.trans htext, htext⟩

/-- Quotes, commas and equals signs are no obstacle where they may stand. -/
theorem attainable_iff_reportable_of_quoted :
    (condition "pod" "web" none ⟨"'Ready", "a=b, message=c", some " \""⟩).fault? = none ∧
      ∃ o, ((condition "pod" "web" none
        ⟨"'Ready", "a=b, message=c", some " \""⟩).goal.judge o).satisfied = true := by
  have hvalid : (condition "pod" "web" none
      ⟨"'Ready", "a=b, message=c", some " \""⟩).fault? = none := by decide
  have hdemand : ConditionDemand.IsReportable ⟨"'Ready", "a=b, message=c", some " \""⟩ := by
    have hword : "'Ready".toList.all (fun x => !Text.isBlank x && x != '=') = true := by decide
    refine ⟨fun x hx => by simpa using List.all_eq_true.1 hword x hx, by decide, by decide,
      by decide, ?_⟩
    rintro part ⟨rfl⟩
    decide
  exact ⟨hvalid, (attainable_iff_reportable rfl hvalid).1.2 hdemand⟩

/-- A blank behind the status is no fault, but no status is read with one: such a wait lasts until
its timeout. -/
theorem unattainable_of_blankEnd :
    ¬ ∀ (wait : Wait) (demand : ConditionDemand), wait.goal = .condition demand →
      wait.fault? = none → ∃ o, (wait.goal.judge o).satisfied = true := by
  intro hclaim
  have hvalid : (condition "pod" "web" none ⟨"Ready", "True ", none⟩).fault? = none := by decide
  have hattained := hclaim _ _ rfl hvalid
  have hdemand := (Goal.exists_condition_met_iff.trans
    (ConditionDemand.exists_isMet_iff (by decide) (by decide))).1 hattained
  exact absurd hdemand.status_trim (by decide)

end Wait

end MeshTestbed
