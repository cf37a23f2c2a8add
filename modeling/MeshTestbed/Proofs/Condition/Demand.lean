import Mathlib.Data.List.Nodup
import MeshTestbed.Proofs.Condition.Reading
import MeshTestbed.Wait.Goal

namespace MeshTestbed

variable {cs : Conditions} {demand : ConditionDemand} {o : Completion} {c : Condition}

def ConditionDemand.Fits (demand : ConditionDemand) (c : Condition) : Prop :=
  c.type = demand.type ∧ c.status = demand.status

theorem ConditionDemand.fits_asRead : demand.Fits c.asRead ↔ demand.Fits c := by
  rw [Fits, Fits, Condition.asRead_type, Condition.asRead_status]

theorem ConditionDemand.fits_of_holdsFor (htype : c.type = demand.type)
    (hholds : demand.holdsFor c = true) : demand.Fits c := by
  refine ⟨htype, ?_⟩
  unfold holdsFor at hholds
  simpa using (Bool.and_eq_true_iff.1 hholds).1

theorem ConditionDemand.isMet_iff {raw : String} :
    demand.isMet (Conditions.ofOutput raw) = true ↔
      ∃ c, Conditions.latest? (Condition.reports raw.toList) demand.type = some c ∧
        demand.holdsFor c = true := by
  unfold isMet
  rw [Conditions.get_ofOutput]
  split <;> simp_all

namespace Conditions

variable {reports : List Condition} {type : String}

theorem mem_of_latest (h : latest? reports type = some c) : c ∈ reports ∧ c.type = type :=
  ⟨List.mem_reverse.1 (List.mem_of_find?_eq_some h), by simpa using List.find?_some h⟩

theorem get_eq_some_iff (hdistinct : (cs.map (·.type)).Nodup) :
    cs.get? type = some c ↔ c ∈ cs ∧ c.type = type := by
  constructor
  · intro hget
    exact ⟨List.mem_of_find?_eq_some hget, by simpa using List.find?_some hget⟩
  · rintro ⟨hmem, rfl⟩
    obtain ⟨d, hd⟩ : ∃ d, cs.get? c.type = some d :=
      Option.isSome_iff_exists.1 (List.find?_isSome.2 ⟨c, hmem, by simp⟩)
    have htype : d.type = c.type := by simpa using List.find?_some hd
    rw [hd, List.inj_on_of_nodup_map hdistinct (List.mem_of_find?_eq_some hd) hmem htype]

/-- If every type is reported once, the last report of a type is the only one. -/
theorem latest_eq_some_iff (hdistinct : (reports.map (·.type)).Nodup) :
    latest? reports type = some c ↔ c ∈ reports ∧ c.type = type := by
  have hreversed : (reports.reverse.map (·.type)).Nodup := by
    rw [List.map_reverse, List.nodup_reverse]
    exact hdistinct
  exact (get_eq_some_iff hreversed).trans (and_congr_left fun _ => List.mem_reverse)

end Conditions

namespace Goal

theorem condition_met_iff_latest (hok : o.isOk = true) :
    ((condition demand).judge o).satisfied = true ↔
      ∃ c, Conditions.latest? (Condition.reports o.stdout.toList) demand.type = some c ∧
        demand.holdsFor c = true := by
  have hreports : Condition.reports (Text.trimmed o.stdout).toList =
      Condition.reports o.stdout.toList := by
    rw [Text.trimmed, String.toList_ofList, Condition.reports_trim]
  rw [← hreports, ← ConditionDemand.isMet_iff, judge, if_pos hok, judgeSuccess]

/-- On a report of plain conditions a demand is met by the last of the conditions of its type that
are read: those of the report, each with the first line of its message, and behind each one what
the further lines of its message look like. So it is one of the conditions that has the type and the
status, or a message pretends to it; and if no message has a line feed, the demand is met exactly if
it holds for one of the conditions. -/
theorem condition_met_iff_reported (hplain : ∀ c ∈ cs, c.IsPlain)
    (hdistinct : (cs.map (·.type)).Nodup) (hok : o.isOk = true) (hstdout : o.stdout = cs.printed) :
    (((condition demand).judge o).satisfied = true ↔
      ∃ c, Conditions.latest? (cs.flatMap fun c => c.asRead :: c.smuggled) demand.type = some c ∧
        demand.holdsFor c = true) ∧
    (((condition demand).judge o).satisfied = true →
      (∃ c ∈ cs, demand.Fits c) ∨ ∃ c ∈ cs, ∃ d ∈ c.smuggled, demand.Fits d) ∧
    ((∀ c ∈ cs, '\n' ∉ c.message.toList) →
      (((condition demand).judge o).satisfied = true ↔
        ∃ c ∈ cs, c.type = demand.type ∧ demand.holdsFor c.asRead = true)) := by
  rw [condition_met_iff_latest hok, hstdout, Conditions.reports_printed hplain]
  refine ⟨Iff.rfl, ?_, fun hlines => ?_⟩
  · rintro ⟨d, hlatest, hholds⟩
    obtain ⟨hmem, htype⟩ := Conditions.mem_of_latest hlatest
    have hfits : demand.Fits d := ConditionDemand.fits_of_holdsFor htype hholds
    obtain ⟨c, hc, hd⟩ := List.mem_flatMap.1 hmem
    rcases List.mem_cons.1 hd with rfl | hsmuggled
    · exact .inl ⟨c, hc, ConditionDemand.fits_asRead.1 hfits⟩
    · exact .inr ⟨c, hc, d, hsmuggled, hfits⟩
  · have hread : (cs.flatMap fun c => c.asRead :: c.smuggled) = cs.map Condition.asRead := by
      rw [← List.flatMap_pure_eq_map]
      exact List.flatMap_congr fun c hc => by rw [Condition.smuggled_of_line (hlines c hc)]; rfl
    have htypes : ((cs.map Condition.asRead).map (·.type)).Nodup := by
      rw [List.map_map]
      exact hdistinct
    simp only [hread, Conditions.latest_eq_some_iff htypes, List.mem_map]
    constructor
    · rintro ⟨_, ⟨⟨c, hc, rfl⟩, htype⟩, hholds⟩
      exact ⟨c, hc, htype, hholds⟩
    · rintro ⟨c, hc, htype, hholds⟩
      exact ⟨c.asRead, ⟨⟨c, hc, rfl⟩, htype⟩, hholds⟩

theorem condition_not_met_of_imitation :
    ∃ c : Condition, c.IsPlain ∧
      ((condition ⟨"Installed", "True", none⟩).judge
        ⟨Conditions.printed [c], "", some 0⟩).satisfied = false := by
  have hplain : Condition.IsPlain ⟨"Installed", "False", "Pending",
      "seen, Installed=True, reason=Ok, message=done"⟩ :=
    ⟨by simp, by simp [Text.isBlank, Condition.isQuote], by simp,
      by simp [Text.isBlank, Condition.isQuote], by simp [Text.isBlank, Condition.isQuote]⟩
  refine ⟨_, hplain, ?_⟩
  have hreported : ((condition ⟨"Installed", "True", none⟩).judge
      ⟨Conditions.printed [_], "", some 0⟩).satisfied = true ↔ _ :=
    (condition_met_iff_reported (List.forall_mem_singleton.2 hplain) (List.nodup_singleton _)
      rfl rfl).2.2 (by decide)
  rw [← Bool.not_eq_true, hreported]
  simp [ConditionDemand.holdsFor, Condition.asRead_status]

/-- A message of two lines makes an installation that is pending look finished. -/
theorem condition_met_of_smuggled_line :
    ∃ c : Condition, c.IsPlain ∧
      ((condition ⟨"Installed", "True", none⟩).judge
        ⟨Conditions.printed [c], "", some 0⟩).satisfied = true ∧
      ¬ ∃ d ∈ [c], ConditionDemand.Fits ⟨"Installed", "True", none⟩ d :=
  ⟨⟨"Installed", "False", "Pending",
      "last seen\nInstalled=True, reason=InstallSuccessful, message=done"⟩,
    ⟨by simp, by simp [Text.isBlank, Condition.isQuote], by simp,
      by simp [Text.isBlank, Condition.isQuote], by simp [Text.isBlank, Condition.isQuote]⟩,
    by decide +kernel, by simp [ConditionDemand.Fits]⟩

end Goal

end MeshTestbed
