import MeshTestbed.Proofs.Condition.Extraction

namespace MeshTestbed

namespace Condition

variable {c : Condition} {line : List Char}

/-- The line of the condition has no quote at either end. -/
def IsUnquoted (c : Condition) : Prop :=
  (∀ q ∈ c.type.toList.head?, isQuote q = false) ∧
    ∀ q ∈ c.message.toList.getLast?, isQuote q = false

theorem heard_eq_self_iff {s : String} (htext : fieldText s.toList = s) :
    heard s.toList = s ↔ ∀ q ∈ s.toList.getLast?, isQuote q = false := by
  have hblanks : Text.trimEnd s.toList = s.toList := by
    rw [← (fieldText_eq_self_iff.1 htext).1, Text.trimEnd_trim]
  unfold heard
  rw [hblanks, ← Text.cutEnd_eq_self_iff]
  constructor
  · intro hsame
    -- What is left without the quotes has room for the whole message only if there are none.
    have hinside : s.toList <:+: Text.cutEnd isQuote s.toList := by
      have hheard : (fieldText (Text.trimEnd (Text.cutEnd isQuote s.toList))).toList <:+:
          Text.cutEnd isQuote s.toList := fieldText_isInfix.trans Text.cutEnd_isPrefix.isInfix
      rwa [hsame] at hheard
    exact Text.cutEnd_isPrefix.eq_of_length_le hinside.length_le
  · intro hsame
    rw [hsame, hblanks, htext]

theorem ofLine_render_of_bare (hlegible : c.IsLegible)
    (hbare : ∀ q ∈ c.type.toList.head?, isQuote q = false) :
    ofLine? c.render.toList = some { c with message := heard c.message.toList } := by
  rw [toList_render, ofLine_heading_of_bare hlegible hbare]

theorem bare_of_ofLine_render {d : Condition} (hlegible : d.IsLegible)
    (h : ofLine? d.render.toList = some c) : ∀ q ∈ c.type.toList.head?, isQuote q = false := by
  rw [toList_render, ofLine_heading hlegible] at h
  split at h
  · cases h
  · cases h
    rw [String.toList_ofList, ← Text.dropWhile_eq_self_iff]
    exact List.dropWhile_idempotent _ _

theorem newline_not_mem_render (h : ofLine? line = some c) (hline : '\n' ∉ line) :
    '\n' ∉ c.render.toList := by
  have hfields : ∀ s ∈ [c.type, c.status, c.reason, c.message], '\n' ∉ s.toList :=
    fun s hs hmem => hline ((isInfix_of_ofLine h s hs).subset hmem)
  have hmarks : '\n' ∉ reasonMark ∧ '\n' ∉ messageMark := by decide
  rw [toList_render]
  simp [heading, hfields, hmarks]

end Condition

namespace Conditions

variable {cs : Conditions} {c : Condition} {raw : String}

theorem reports_render (hlines : ∀ c ∈ cs, '\n' ∉ c.render.toList) :
    Condition.reports cs.render.toList =
      cs.filterMap fun c => Condition.ofLine? c.render.toList := by
  have hread := Text.readLines_joinWith Condition.skipsBlanks_ofLine.nil
    (List.forall_mem_map.2 hlines)
  rw [Condition.reports_eq, render, hread, List.filterMap_map]
  rfl

theorem ofOutput_render_eq : ofOutput (ofOutput raw).render =
    ((ofOutput raw).filterMap fun c => Condition.ofLine? c.render.toList).foldl put [] := by
  rw [ofOutput, reports_render]
  intro c hc
  obtain ⟨line, hline, -, hnewline⟩ := mem_ofOutput hc
  exact Condition.newline_not_mem_render hline hnewline

theorem isLegible_of_mem_ofOutput (h : c ∈ ofOutput raw) : c.IsLegible := by
  obtain ⟨line, hline, -⟩ := mem_ofOutput h
  exact Condition.isLegible_of_ofLine hline

theorem ofOutput_render_of_bare
    (hbare : ∀ c ∈ ofOutput raw, ∀ q ∈ c.type.toList.head?, Condition.isQuote q = false) :
    ofOutput (ofOutput raw).render = (ofOutput raw).map fun c =>
      { c with message := Condition.heard c.message.toList } := by
  have hlines : ((ofOutput raw).filterMap fun c => Condition.ofLine? c.render.toList) =
      (ofOutput raw).map fun c => { c with message := Condition.heard c.message.toList } := by
    rw [← List.filterMap_eq_map]
    exact List.filterMap_congr fun c hc =>
      Condition.ofLine_render_of_bare (isLegible_of_mem_ofOutput hc) (hbare c hc)
  rw [ofOutput_render_eq, hlines, foldl_put_of_nodup, List.nil_append]
  rw [List.nil_append, List.map_map]
  exact nodup_types_ofOutput

theorem ofOutput_render_iff_of_bare
    (hbare : ∀ c ∈ ofOutput raw, ∀ q ∈ c.type.toList.head?, Condition.isQuote q = false) :
    ofOutput (ofOutput raw).render = ofOutput raw ↔
      ∀ c ∈ ofOutput raw, ∀ q ∈ c.message.toList.getLast?, Condition.isQuote q = false := by
  -- Nothing is added or dropped, so each condition is compared with itself.
  rw [ofOutput_render_of_bare hbare]
  nth_rewrite 2 [← List.map_id (ofOutput raw)]
  rw [List.map_inj_left]
  refine forall₂_congr fun c hc => ?_
  obtain ⟨line, hline, -⟩ := mem_ofOutput hc
  rw [← Condition.heard_eq_self_iff (Condition.fieldText_message_of_ofLine hline)]
  exact ⟨fun hsame => congrArg Condition.message hsame, fun hmessage => by rw [hmessage, id]⟩

theorem bare_of_ofOutput_render (hsame : ofOutput (ofOutput raw).render = ofOutput raw) :
    ∀ c ∈ ofOutput raw, ∀ q ∈ c.type.toList.head?, Condition.isQuote q = false := by
  intro c hc
  rw [← hsame, ofOutput_render_eq] at hc
  rcases mem_foldl_put hc with hnil | hread
  · cases hnil
  · obtain ⟨d, hd, hline⟩ := List.mem_filterMap.1 hread
    exact Condition.bare_of_ofLine_render (isLegible_of_mem_ofOutput hd) hline

/-- Rendering the conditions of a text and extracting them again changes nothing if and only if no
type begins with a quote and no message ends with one. So a text without quotes has conditions that
are read back as they are, whatever marks and missing fields its lines have. -/
theorem ofOutput_render (raw : String) :
    (ofOutput (ofOutput raw).render = ofOutput raw ↔ ∀ c ∈ ofOutput raw, c.IsUnquoted) ∧
      ((∀ x ∈ raw.toList, Condition.isQuote x = false) →
        ofOutput (ofOutput raw).render = ofOutput raw) := by
  have hround : ofOutput (ofOutput raw).render = ofOutput raw ↔
      ∀ c ∈ ofOutput raw, c.IsUnquoted := by
    constructor
    · intro hsame
      have hbare := bare_of_ofOutput_render hsame
      exact fun c hc => ⟨hbare c hc, (ofOutput_render_iff_of_bare hbare).1 hsame c hc⟩
    · intro hunquoted
      exact (ofOutput_render_iff_of_bare fun c hc => (hunquoted c hc).1).2
        fun c hc => (hunquoted c hc).2
  refine ⟨hround, fun hraw => hround.2 fun c hc => ?_⟩
  obtain ⟨line, hline, hinside, -⟩ := mem_ofOutput hc
  have hfield : ∀ s ∈ [c.type, c.status, c.reason, c.message], ∀ x ∈ s.toList,
      Condition.isQuote x = false := fun s hs x hx =>
    hraw x (hinside.subset ((Condition.isInfix_of_ofLine hline s hs).subset hx))
  exact ⟨fun q hq => hfield c.type (by simp) q (List.mem_of_mem_head? hq),
    fun q hq => hfield c.message (by simp) q (List.mem_of_mem_getLast? hq)⟩

/-- A mark where it does not belong stays in the field that it is in. -/
theorem ofOutput_render_of_delimiters : ∃ raw : String,
    (∀ x ∈ raw.toList, Condition.isQuote x = false) ∧
      ofOutput raw = [⟨"Up", "On, message=a", "b=c, reason=d", ""⟩] ∧
      ofOutput (ofOutput raw).render = ofOutput raw := by
  have hquotes : ∀ x ∈ "Up=On, message=a, reason=b=c, reason=d, message=<no value>".toList,
      Condition.isQuote x = false := by
    simp [Condition.isQuote]
  exact ⟨_, hquotes, by decide +kernel, (ofOutput_render _).2 hquotes⟩

/-- A quote that a blank kept from being cut off is cut off the second time. -/
example : ofOutput (ofOutput "' 'Ready=True").render ≠ ofOutput "' 'Ready=True" := by
  decide +kernel

end Conditions

end MeshTestbed
