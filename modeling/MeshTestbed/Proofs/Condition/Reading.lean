import MeshTestbed.Condition.Reading
import MeshTestbed.Proofs.Text.Lines
import MeshTestbed.Proofs.Text.Occurrence

/-!
A message may have line feeds in it. What is read from a report of plain conditions is each
condition with the first line of its message, and after it the conditions that the further lines of
that message look like (`reports_printed`).
-/

namespace MeshTestbed

open Text (readLines)

namespace Condition

variable {c : Condition} {line rest : List Char}

def isQuote (c : Char) : Bool := c = '\'' || c = '"'

theorem skipsBlanks_ofLine : Text.SkipsBlanks ofLine? where
  nil := by decide
  cons d line hd := by
    unfold ofLine? unquote
    rw [Text.trim_cons_blank hd]
  concat d line hd := by
    unfold ofLine? unquote
    rw [Text.trim_concat_blank hd]

theorem reports_eq {raw : List Char} : reports raw = readLines ofLine? [] raw :=
  Text.filterMap_lines skipsBlanks_ofLine.nil skipsBlanks_ofLine.skipsReturn

theorem reports_trim {raw : List Char} : reports (Text.trim raw) = reports raw := by
  rw [reports_eq, reports_eq, Text.readLines_trim skipsBlanks_ofLine]

/-- Type, status and reason are words that a line keeps apart; of the message nothing is asked. -/
structure IsPlain (c : Condition) : Prop where
  type_ne : c.type ≠ ""
  type_chars : ∀ x ∈ c.type.toList, Text.isBlank x = false ∧ isQuote x = false ∧ x ≠ '='
  status_ne : c.status ≠ ""
  status_chars : ∀ x ∈ c.status.toList, Text.isBlank x = false ∧ isQuote x = false ∧ x ≠ ','
  reason_chars : ∀ x ∈ c.reason.toList, Text.isBlank x = false ∧ isQuote x = false ∧ x ≠ ','

/-- The fields before the message can be told apart in a line. -/
structure IsLegible (c : Condition) : Prop where
  type_ne : c.type ≠ ""
  type_chars : ∀ x ∈ c.type.toList, Text.isBlank x = false ∧ x ≠ '='
  status_ne : c.status ≠ ""
  status_trim : Text.trim c.status.toList = c.status.toList
  status_mark : ¬ reasonMark <:+: c.status.toList
  reason_text : fieldText c.reason.toList = c.reason
  reason_mark : ¬ messageMark <:+: c.reason.toList

theorem fieldText_of_no_blank {s : String} (h : ∀ x ∈ s.toList, Text.isBlank x = false) :
    fieldText s.toList = s := by
  have hpresent : s.toList ≠ missingField := by
    intro hmissing
    have hblank : ' ' ∈ s.toList := by
      rw [hmissing]
      decide
    exact absurd (h ' ' hblank) (by decide)
  rw [fieldText, Text.trim_of_no_blank h, if_neg hpresent, String.ofList_toList]

theorem IsPlain.isLegible (hplain : c.IsPlain) : c.IsLegible where
  type_ne := hplain.type_ne
  type_chars x hx := ⟨(hplain.type_chars x hx).1, (hplain.type_chars x hx).2.2⟩
  status_ne := hplain.status_ne
  status_trim := Text.trim_of_no_blank fun x hx => (hplain.status_chars x hx).1
  status_mark hmark := (hplain.status_chars ',' (hmark.subset (by decide))).2.2 rfl
  reason_text := fieldText_of_no_blank fun x hx => (hplain.reason_chars x hx).1
  reason_mark hmark := (hplain.reason_chars ',' (hmark.subset (by decide))).2.2 rfl

def heading (c : Condition) : List Char :=
  c.type.toList ++ '=' :: (c.status.toList ++ (reasonMark ++ (c.reason.toList ++ messageMark)))

theorem toList_render : c.render.toList = c.heading ++ c.message.toList := by
  have hequals : "=".toList = ['='] := rfl
  have hreason : ", reason=".toList = reasonMark := rfl
  have hmessage : ", message=".toList = messageMark := rfl
  simp only [render, heading, String.toList_append, hequals, hreason, hmessage, List.append_assoc,
    List.cons_append, List.nil_append]

/-- A message as it is read from one line: blanks and quotes at the end are no part of it. -/
@[irreducible]
def heard (message : List Char) : String :=
  fieldText (Text.trimEnd (Text.cutEnd isQuote (Text.trimEnd message)))

theorem fields_heading {status reason message : List Char} (hstatus : ¬ reasonMark <:+: status)
    (hreason : ¬ messageMark <:+: reason) :
    fields (status ++ (reasonMark ++ (reason ++ (messageMark ++ message)))) =
      (status, reason, message) := by
  have hfirst : Text.splitFirst reasonMark (status ++ (reasonMark ++
      (reason ++ (messageMark ++ message)))) =
        some (status, reason ++ (messageMark ++ message)) :=
    Text.splitFirst_append (by decide) hstatus
  have hsecond : Text.splitFirst messageMark (reason ++ (messageMark ++ message)) =
      some (reason, message) := Text.splitFirst_append (by decide) hreason
  simp only [fields, hfirst, hsecond]

theorem unquote_marked {type rest message : List Char} :
    unquote (type ++ '=' :: (rest ++ '=' :: message)) =
      ((type.dropWhile Text.isBlank).dropWhile isQuote).dropWhile Text.isBlank ++
        '=' :: (rest ++ '=' :: Text.trimEnd (Text.cutEnd isQuote (Text.trimEnd message))) := by
  have hblanks (word message : List Char) : Text.trim (word ++ '=' :: (rest ++ '=' :: message)) =
      word.dropWhile Text.isBlank ++ '=' :: (rest ++ '=' :: Text.trimEnd message) :=
    Text.stripEnds_append rfl rfl
  have hquotes (word message : List Char) :
      Text.stripEnds isQuote (word ++ '=' :: (rest ++ '=' :: message)) =
        word.dropWhile isQuote ++ '=' :: (rest ++ '=' :: Text.cutEnd isQuote message) :=
    Text.stripEnds_append rfl rfl
  rw [← hblanks, ← hquotes, ← hblanks]
  rfl

theorem unquote_heading (front line : List Char) : unquote (front ++ (c.heading ++ line)) =
    (((front ++ c.type.toList).dropWhile Text.isBlank).dropWhile isQuote).dropWhile Text.isBlank ++
      '=' :: (c.status.toList ++ (reasonMark ++ (c.reason.toList ++ (messageMark ++
        Text.trimEnd (Text.cutEnd isQuote (Text.trimEnd line)))))) := by
  have hmark : messageMark = ", message".toList ++ ['='] := by decide
  have hheading : front ++ (c.heading ++ line) = (front ++ c.type.toList) ++
      '=' :: (c.status.toList ++ (reasonMark ++ (c.reason.toList ++ ", message".toList)) ++
        '=' :: line) := by
    simp [heading, hmark]
  rw [hheading, unquote_marked]
  simp [hmark]

theorem ofLine_of_unquote {message : List Char} (hlegible : c.IsLegible)
    (hline : unquote line = c.heading ++ message) :
    ofLine? line = some { c with message := fieldText message } := by
  have hsplit (rest : List Char) :
      Text.splitFirst ['='] (c.type.toList ++ '=' :: rest) = some (c.type.toList, rest) :=
    Text.splitFirst_append (by simp) fun hmark =>
      (hlegible.type_chars '=' ((List.singleton_infix_iff _ _).1 hmark)).2 rfl
  have htype : Text.trim c.type.toList = c.type.toList :=
    Text.trim_of_no_blank fun x hx => (hlegible.type_chars x hx).1
  have hword : ¬ ∃ x, x ∈ c.type.toList ∧ Text.isBlank x = true := by
    rintro ⟨x, hx, hblank⟩
    exact absurd hblank (by simp [(hlegible.type_chars x hx).1])
  unfold ofLine?
  rw [hline, heading]
  simp [hsplit, htype, hword, fields_heading hlegible.status_mark hlegible.reason_mark,
    hlegible.type_ne, hlegible.status_trim, hlegible.status_ne, hlegible.reason_text]

/-- A line gives back what its heading says, less the quotes before the type; if the type has
nothing else, the line says nothing. -/
theorem ofLine_heading (hlegible : c.IsLegible) :
    ofLine? (c.heading ++ line) =
      if c.type.toList.dropWhile isQuote = [] then none
      else some { c with
        type := String.ofList (c.type.toList.dropWhile isQuote), message := heard line } := by
  set bare := c.type.toList.dropWhile isQuote with hbare
  have hchars : ∀ x ∈ bare, Text.isBlank x = false ∧ x ≠ '=' := fun x hx =>
    hlegible.type_chars x ((List.dropWhile_suffix _).subset hx)
  have hunquote : unquote (c.heading ++ line) = bare ++ '=' :: (c.status.toList ++
      (reasonMark ++ (c.reason.toList ++ (messageMark ++
        Text.trimEnd (Text.cutEnd isQuote (Text.trimEnd line)))))) := by
    have hkeep {word : List Char} (hword : ∀ x ∈ word, Text.isBlank x = false) :
        word.dropWhile Text.isBlank = word :=
      List.dropWhile_eq_self_iff.2 fun hword' => by simp [hword]
    have hwords := unquote_heading (c := c) [] line
    rw [List.nil_append, List.nil_append, hkeep fun x hx => (hlegible.type_chars x hx).1,
      ← hbare, hkeep fun x hx => (hchars x hx).1] at hwords
    exact hwords
  split
  · next hempty =>
    -- A line with only quotes for a type still has its equals sign.
    rw [ofLine?, hunquote, hempty]
    rfl
  · next hpresent =>
    have hlegible' : ({ c with type := String.ofList bare } : Condition).IsLegible :=
      { hlegible with
        type_ne := by simpa using hpresent
        type_chars := by simpa using hchars }
    unfold heard
    exact ofLine_of_unquote hlegible' (by simpa [heading] using hunquote)

theorem ofLine_heading_of_bare (hlegible : c.IsLegible)
    (hbare : ∀ q ∈ c.type.toList.head?, isQuote q = false) :
    ofLine? (c.heading ++ line) = some { c with message := heard line } := by
  rw [ofLine_heading hlegible, Text.dropWhile_eq_self_iff.2 hbare,
    if_neg (by simpa using hlegible.type_ne), String.ofList_toList]

theorem IsPlain.ofLine_heading (hplain : c.IsPlain) :
    ofLine? (c.heading ++ line) = some { c with message := heard line } :=
  ofLine_heading_of_bare hplain.isLegible fun q hq =>
    (hplain.type_chars q (List.mem_of_mem_head? hq)).2.1

def firstLine (c : Condition) : List Char :=
  (Text.splitFirst ['\n'] c.message.toList).elim c.message.toList (·.1)

def asRead (c : Condition) : Condition := { c with message := heard c.firstLine }

theorem asRead_type : c.asRead.type = c.type := by simp only [asRead]

theorem asRead_status : c.asRead.status = c.status := by simp only [asRead]

/-- What the further lines of the message are taken for. -/
def smuggled (c : Condition) : List Condition :=
  (Text.splitFirst ['\n'] c.message.toList).elim [] fun parts => reports parts.2

theorem smuggled_of_line (hline : '\n' ∉ c.message.toList) : c.smuggled = [] := by
  unfold smuggled
  rcases Text.splitFirst_singleton c.message.toList '\n' with
    ⟨hnone, -⟩ | ⟨line, rest, -, hmessage, -⟩
  · rw [hnone]
    rfl
  · rw [hmessage] at hline
    simp at hline

theorem newline_not_mem_heading (hplain : c.IsPlain) : '\n' ∉ c.heading := by
  have hword {word : List Char} (hword : ∀ x ∈ word, Text.isBlank x = false) : '\n' ∉ word :=
    fun hmem => absurd (hword '\n' hmem) (by decide)
  have htype : '\n' ∉ c.type.toList := hword fun x hx => (hplain.type_chars x hx).1
  have hstatus : '\n' ∉ c.status.toList := hword fun x hx => (hplain.status_chars x hx).1
  have hreason : '\n' ∉ c.reason.toList := hword fun x hx => (hplain.reason_chars x hx).1
  have hreasonMark : '\n' ∉ reasonMark := by decide
  have hmessageMark : '\n' ∉ messageMark := by decide
  simp [heading, htype, hstatus, hreason, hreasonMark, hmessageMark]

theorem reports_render (hplain : c.IsPlain) :
    reports c.render.toList = c.asRead :: c.smuggled := by
  rw [reports_eq, toList_render, Text.readLines_append (newline_not_mem_heading hplain),
    List.nil_append]
  have hfirst {line : List Char} (hline : '\n' ∉ line) :
      readLines ofLine? c.heading line = [{ c with message := heard line }] := by
    rw [Text.readLines_line hline, hplain.ofLine_heading]
    rfl
  unfold asRead smuggled firstLine
  rcases Text.splitFirst_singleton c.message.toList '\n' with
    ⟨hnone, hline⟩ | ⟨line, rest, hsome, hmessage, hline⟩
  · rw [hnone]
    exact hfirst hline
  · rw [hsome, hmessage, Text.readLines_append_newline, hfirst hline, ← reports_eq]
    rfl

end Condition

namespace Conditions

variable {cs : Conditions}

/-- What the template prints: a line for each condition, as long as no message breaks it. -/
def printed (cs : Conditions) : String := Text.unlines (cs.map Condition.render)

theorem reports_printed (hplain : ∀ c ∈ cs, c.IsPlain) :
    Condition.reports cs.printed.toList = cs.flatMap fun c => c.asRead :: c.smuggled := by
  induction cs with
  | nil => rfl
  | cons c cs ih =>
    obtain ⟨hc, hcs⟩ := List.forall_mem_cons.1 hplain
    have hprinted : (printed (c :: cs)).toList =
        c.render.toList ++ '\n' :: (printed cs).toList := by
      have hnewline : "\n".toList = ['\n'] := rfl
      simp only [printed, List.map_cons, Text.unlines, List.foldr_cons, String.toList_append,
        hnewline, List.append_assoc, List.singleton_append]
    rw [hprinted, Condition.reports_eq, Text.readLines_append_newline, ← Condition.reports_eq,
      ← Condition.reports_eq, Condition.reports_render hc, ih hcs, List.flatMap_cons]

/-- The last condition of a type. -/
def latest? (reports : List Condition) (type : String) : Option Condition :=
  reports.reverse.find? fun c => c.type == type

theorem get_put {c : Condition} {type : String} :
    (cs.put c).get? type = if c.type = type then some c else cs.get? type := by
  unfold put get?
  split
  · next hany =>
    have hsame : ((fun d : Condition => d.type == type) ∘
        fun d => if d.type == c.type then c else d) = fun d => d.type == type := by
      funext d
      by_cases hd : d.type = c.type <;> simp [hd]
    rw [List.find?_map, hsame]
    rcases hfind : cs.find? (fun d => d.type == type) with _ | d
    · obtain ⟨d, hd, htype⟩ := List.any_eq_true.1 hany
      have hne : c.type ≠ type := by
        rintro rfl
        exact List.find?_eq_none.1 hfind d hd htype
      rw [hfind, if_neg hne]
      rfl
    · have htype : d.type = type := by simpa using List.find?_some hfind
      rw [hfind, Option.map_some]
      by_cases hc : c.type = type
      · simp [htype, hc]
      · simp [htype, hc, Ne.symm hc]
  · next hnone =>
    rw [List.find?_append]
    by_cases hc : c.type = type
    · have hfind : cs.find? (fun d => d.type == type) = none :=
        List.find?_eq_none.2 fun d hd htype => hnone (List.any_eq_true.2 ⟨d, hd, hc ▸ htype⟩)
      simp [hfind, hc]
    · simp [hc]

theorem get_foldl_put {reports : List Condition} {type : String} :
    (reports.foldl put cs).get? type = (latest? reports type).or (cs.get? type) := by
  induction reports generalizing cs with
  | nil => rfl
  | cons c reports ih =>
    rw [List.foldl_cons, ih, get_put]
    by_cases hc : c.type = type <;> simp [latest?, List.find?_append, hc]

theorem get_ofOutput {raw : String} {type : String} :
    (ofOutput raw).get? type = latest? (Condition.reports raw.toList) type := by
  rw [ofOutput, get_foldl_put]
  simp [get?]

end Conditions

end MeshTestbed
