import Mathlib.Data.List.Nodup
import MeshTestbed.Proofs.Condition.Reading

namespace MeshTestbed

namespace Condition

variable {c : Condition} {line field rest status reason message : List Char}

theorem fieldText_eq_self_iff {s : String} :
    fieldText s.toList = s ↔ Text.trim s.toList = s.toList ∧ s.toList ≠ missingField := by
  simp only [fieldText]
  split
  · next hmissing =>
    constructor
    · rintro rfl
      exact absurd hmissing (by decide)
    · rintro ⟨htrim, hpresent⟩
      exact absurd (htrim.symm.trans hmissing) hpresent
  · next hpresent =>
    rw [← String.toList_inj, String.toList_ofList]
    exact ⟨fun htrim => ⟨htrim, htrim ▸ hpresent⟩, And.left⟩

theorem fieldText_fieldText : fieldText (fieldText field).toList = fieldText field := by
  rw [fieldText_eq_self_iff, fieldText]
  split
  · decide
  · next hpresent =>
    rw [String.toList_ofList]
    exact ⟨Text.trim_trim, hpresent⟩

theorem fieldText_isInfix : (fieldText field).toList <:+: field := by
  rw [fieldText]
  split
  · exact List.nil_infix
  · rw [String.toList_ofList]
    exact Text.trim_isInfix

/-- Each of the three parts stands in the text, and no mark stands in the part before it. -/
theorem fields_parts (h : fields rest = (status, reason, message)) :
    (status <:+: rest ∧ reason <:+: rest ∧ message <:+: rest) ∧
      ¬ reasonMark <:+: status ∧ ¬ messageMark <:+: reason := by
  have hmarks : reasonMark ≠ [] ∧ messageMark ≠ [] := by decide
  have hempty : ¬ messageMark <:+: [] := by decide
  -- The cases are those of the marks that the text has.
  unfold fields at h
  split at h
  · next hreason =>
    obtain ⟨rfl, hstatus⟩ := Text.splitFirst_eq_some hreason
    split at h
    · next hmessage =>
      obtain ⟨rfl, hbefore⟩ := Text.splitFirst_eq_some hmessage
      cases h
      refine ⟨⟨(List.prefix_append _ _).isInfix, ⟨status ++ reasonMark, messageMark ++ message, ?_⟩,
        ⟨status ++ (reasonMark ++ (reason ++ messageMark)), [], ?_⟩⟩,
        hstatus hmarks.1, hbefore hmarks.2⟩
      · simp
      · simp
    · next hmessage =>
      cases h
      refine ⟨⟨(List.prefix_append _ _).isInfix, ⟨status ++ reasonMark, [], ?_⟩, List.nil_infix⟩,
        hstatus hmarks.1, Text.splitFirst_eq_none hmessage⟩
      simp
  · next hreason =>
    have hstatus {front : List Char} (hfront : front <:+: rest) : ¬ reasonMark <:+: front :=
      fun hinside => Text.splitFirst_eq_none hreason (hinside.trans hfront)
    split at h
    · next hmessage =>
      obtain ⟨rfl, -⟩ := Text.splitFirst_eq_some hmessage
      cases h
      have hfront := (List.prefix_append status (messageMark ++ message)).isInfix
      exact ⟨⟨hfront, List.nil_infix, ⟨status ++ messageMark, [], by simp⟩⟩, hstatus hfront, hempty⟩
    · cases h
      have hfront := (List.takeWhile_prefix (l := rest) (· ≠ ',')).isInfix
      exact ⟨⟨hfront, List.nil_infix, List.nil_infix⟩, hstatus hfront, hempty⟩

theorem unquote_isInfix : unquote line <:+: line := by
  have hstrip {p : Char → Bool} {cs : List Char} : Text.stripEnds p cs <:+: cs :=
    (Text.cutEnd_isPrefix.isInfix).trans (List.dropWhile_suffix p).isInfix
  exact (Text.trim_isInfix.trans hstrip).trans Text.trim_isInfix

/-- What is read from a line was cut out of it. -/
theorem ofLine_eq_some (h : ofLine? line = some c) :
    ∃ type rest status reason message, unquote line = type ++ '=' :: rest ∧ '=' ∉ type ∧
      fields rest = (status, reason, message) ∧
      c = ⟨String.ofList (Text.trim type), String.ofList (Text.trim status), fieldText reason,
        fieldText message⟩ ∧
      Text.trim type ≠ [] ∧ (∀ x ∈ Text.trim type, Text.isBlank x = false) ∧
        Text.trim status ≠ [] := by
  unfold ofLine? at h
  obtain ⟨⟨type, rest⟩, hsplit, h⟩ := Option.bind_eq_some_iff.1 h
  obtain ⟨hline, hequals⟩ := Text.splitFirst_eq_some hsplit
  simp only at h
  split at h
  · cases h
  · next haccepted =>
    refine ⟨type, rest, (fields rest).1, (fields rest).2.1, (fields rest).2.2, hline, ?_, rfl,
      (Option.some.inj h).symm, ?_⟩
    · exact fun hmem => hequals (List.cons_ne_nil _ _) ((List.singleton_infix_iff _ _).2 hmem)
    · simpa [and_assoc] using haccepted

/-- What a line says is read from the heading again, up to the quotes before the type. -/
theorem isLegible_of_ofLine (h : ofLine? line = some c) : c.IsLegible := by
  obtain ⟨type, rest, status, reason, message, -, hequals, hfields, rfl, htype, hword, hstatus⟩ :=
    ofLine_eq_some h
  obtain ⟨-, hstatusMark, hreasonMark⟩ := fields_parts hfields
  have hwhole : ∀ x ∈ Text.trim type, x ∈ type := fun x hx => Text.trim_isInfix.subset hx
  refine ⟨?_, ?_, ?_, ?_, ?_, fieldText_fieldText, ?_⟩
  · simpa using htype
  · rw [String.toList_ofList]
    exact fun x hx => ⟨hword x hx, fun hx' => hequals (hx' ▸ hwhole x hx)⟩
  · simpa using hstatus
  · rw [String.toList_ofList, Text.trim_trim]
  · rw [String.toList_ofList]
    exact fun hinside => hstatusMark (hinside.trans Text.trim_isInfix)
  · exact fun hinside => hreasonMark (hinside.trans fieldText_isInfix)

theorem fieldText_message_of_ofLine (h : ofLine? line = some c) :
    fieldText c.message.toList = c.message := by
  obtain ⟨type, rest, status, reason, message, -, -, -, rfl, -⟩ := ofLine_eq_some h
  exact fieldText_fieldText

theorem isInfix_of_ofLine (h : ofLine? line = some c) :
    ∀ s ∈ [c.type, c.status, c.reason, c.message], s.toList <:+: line := by
  obtain ⟨type, rest, status, reason, message, hline, -, hfields, rfl, -⟩ := ofLine_eq_some h
  obtain ⟨⟨hstatus, hreason, hmessage⟩, -⟩ := fields_parts hfields
  have htype : type <:+: line := by
    refine List.IsInfix.trans ⟨[], '=' :: rest, ?_⟩ unquote_isInfix
    rw [hline, List.nil_append]
  have hrest : rest <:+: line := by
    refine List.IsInfix.trans ⟨type ++ ['='], [], ?_⟩ unquote_isInfix
    simp [hline]
  simp only [List.mem_cons, List.not_mem_nil, or_false, forall_eq_or_imp, forall_eq,
    String.toList_ofList]
  exact ⟨Text.trim_isInfix.trans htype, (Text.trim_isInfix.trans hstatus).trans hrest,
    (fieldText_isInfix.trans hreason).trans hrest, (fieldText_isInfix.trans hmessage).trans hrest⟩

theorem mem_reports {raw : List Char} (h : c ∈ reports raw) :
    ∃ line, ofLine? line = some c ∧ line <:+: raw ∧ '\n' ∉ line := by
  rw [reports_eq] at h
  simpa using Text.mem_readLines (by simp) h

end Condition

namespace Conditions

variable {cs ds : Conditions} {c d : Condition}

theorem put_of_not_mem (h : c.type ∉ cs.map (·.type)) : cs.put c = cs ++ [c] :=
  if_neg fun hany => h (by simpa using hany)

theorem types_put_of_mem (h : c.type ∈ cs.map (·.type)) :
    (cs.put c).map (·.type) = cs.map (·.type) := by
  have hsame : (·.type) ∘ (fun d : Condition => if d.type == c.type then c else d) = (·.type) := by
    funext d
    by_cases hd : d.type = c.type <;> simp [hd]
  rw [put, if_pos (by simpa using h), List.map_map, hsame]

theorem mem_put (h : d ∈ cs.put c) : d ∈ cs ∨ d = c := by
  unfold put at h
  split at h
  · obtain ⟨e, he, rfl⟩ := List.mem_map.1 h
    split
    · exact .inr rfl
    · exact .inl he
  · simpa using h

theorem mem_foldl_put (h : d ∈ ds.foldl put cs) : d ∈ cs ∨ d ∈ ds := by
  induction ds generalizing cs with
  | nil => exact .inl h
  | cons c ds ih =>
    rcases ih h with hput | hlater
    · rcases mem_put hput with hold | rfl
      · exact .inl hold
      · exact .inr List.mem_cons_self
    · exact .inr (List.mem_cons_of_mem _ hlater)

theorem nodup_types_foldl_put (h : (cs.map (·.type)).Nodup) :
    ((ds.foldl put cs).map (·.type)).Nodup := by
  induction ds generalizing cs with
  | nil => exact h
  | cons c ds ih =>
    refine ih ?_
    by_cases hc : c.type ∈ cs.map (·.type)
    · rw [types_put_of_mem hc]
      exact h
    · rw [put_of_not_mem hc, List.map_append]
      exact h.append (List.nodup_singleton _) (by simpa using hc)

theorem foldl_put_of_nodup (h : ((cs ++ ds).map (·.type)).Nodup) : ds.foldl put cs = cs ++ ds := by
  induction ds generalizing cs with
  | nil => simp
  | cons c ds ih =>
    have hsplit : cs ++ c :: ds = (cs ++ [c]) ++ ds := by simp
    have hnew : c.type ∉ cs.map (·.type) := by
      rw [List.map_append] at h
      exact fun hmem => List.disjoint_of_nodup_append h hmem List.mem_cons_self
    rw [hsplit] at h ⊢
    rw [List.foldl_cons, put_of_not_mem hnew, ih h]

theorem mem_ofOutput {raw : String} (h : c ∈ ofOutput raw) :
    ∃ line, Condition.ofLine? line = some c ∧ line <:+: raw.toList ∧ '\n' ∉ line := by
  rcases mem_foldl_put h with hnil | hreports
  · cases hnil
  · exact Condition.mem_reports hreports

theorem nodup_types_ofOutput {raw : String} : ((ofOutput raw).map (·.type)).Nodup :=
  nodup_types_foldl_put List.nodup_nil

end Conditions

end MeshTestbed
