import MeshTestbed.Json.Printer
import MeshTestbed.Json.Reader
import MeshTestbed.Proofs.Text.Number

/-!
Both printers lay out one text, `spelled`: they differ in the blanks between its parts. Whatever
these are, a value that `Fits` is read back from its text (`readsBack`).
-/

namespace MeshTestbed.Json

variable {n depth fuel : Nat} {c : Char} {rest gap cs read : List Char}

def isGap (c : Char) : Bool := c = ' ' || c = '\t' || c = '\n' || c = '\r'

theorem skipBlank_eq : skipBlank cs = cs.dropWhile isGap := rfl

theorem skipBlank_gap (h : ∀ c ∈ gap, isGap c = true) : skipBlank (gap ++ cs) = skipBlank cs := by
  rw [skipBlank_eq, List.dropWhile_append_of_pos h, skipBlank_eq]

theorem skipBlank_cons (h : isGap c = false) : skipBlank (c :: rest) = c :: rest := by
  rw [skipBlank_eq, List.dropWhile_cons_of_neg (by simp [h])]

theorem isGap_of_isDigit (h : Text.isDigit c = true) : isGap c = false := by
  rw [← Bool.not_eq_true]
  intro hgap
  simp only [isGap, Bool.or_eq_true, decide_eq_true_eq] at hgap
  rcases hgap with ((rfl | rfl) | rfl) | rfl <;> cases h

theorem readValue_gap (h : ∀ c ∈ gap, isGap c = true) :
    readValue fuel depth (gap ++ cs) = readValue fuel depth cs := by
  rcases fuel with _ | fuel
  · rw [readValue, readValue]
  · rw [readValue, readValue, skipBlank_gap h]

theorem readEscape_control (h : c.toNat < 0x20) :
    readEscape ('u' :: '0' :: '0' :: hexDigit (c.toNat / 16) :: hexDigit (c.toNat % 16) :: rest) =
      some (c, rest) := by
  have hunit : ∀ m < 0x20,
      Text.natOfBase 16 ['0', '0', hexDigit (m / 16), hexDigit (m % 16)] = some m := by decide
  have hread : readUnit ('0' :: '0' :: hexDigit (c.toNat / 16) :: hexDigit (c.toNat % 16) :: rest) =
      some (c.toNat, rest) := by
    rw [readUnit, hunit _ h]
    rfl
  have hplain : ¬ (0xd800 ≤ c.toNat ∧ c.toNat < 0xdc00) := by omega
  have hplain' : ¬ (0xdc00 ≤ c.toNat ∧ c.toNat < 0xe000) := by omega
  simp only [readEscape, hread, Option.bind_eq_bind, Option.bind_some, if_neg hplain,
    if_neg hplain', Char.ofNat_toNat]

theorem readString_escapeChar :
    readString (n + 1) read (escapeChar c ++ rest) = readString n (c :: read) rest := by
  unfold escapeChar
  split
  · rfl
  · rfl
  · rfl
  · rfl
  · rfl
  · rfl
  · rfl
  · split
    · next hcontrol =>
      simp only [List.cons_append, List.nil_append, readString, readEscape_control hcontrol,
        Option.bind_eq_bind, Option.bind_some]
    · next hquote hbackslash _ _ _ _ _ hprinted =>
      rw [List.cons_append, List.nil_append, readString, if_neg hprinted]
      · exact hquote
      · exact hbackslash

theorem readString_spelled {s : List Char} (hfuel : s.length < fuel) :
    readString fuel read (s.flatMap escapeChar ++ '"' :: rest) =
      some (String.ofList (read.reverse ++ s), rest) := by
  induction s generalizing fuel read with
  | nil =>
    obtain ⟨fuel, rfl⟩ : ∃ n, fuel = n + 1 := ⟨fuel - 1, by simp at hfuel; omega⟩
    simp [readString]
  | cons c s ih =>
    obtain ⟨fuel, rfl⟩ : ∃ n, fuel = n + 1 := ⟨fuel - 1, by simp at hfuel; omega⟩
    rw [List.flatMap_cons, List.append_assoc, readString_escapeChar, ih (by simpa using hfuel)]
    simp

theorem length_le_escaped {s : List Char} : s.length ≤ (s.flatMap escapeChar).length := by
  induction s with
  | nil => exact Nat.le_refl _
  | cons c s ih =>
    have hescaped : 0 < (escapeChar c).length := by
      unfold escapeChar
      split <;> (try split) <;> exact Nat.succ_pos _
    rw [List.flatMap_cons, List.length_append, List.length_cons]
    omega

/-- Nothing that a number could go on with. -/
def EndsNumber (rest : List Char) : Prop :=
  ∀ c ∈ rest.head?, Text.isDigit c = false ∧ c ≠ '.' ∧ c ≠ 'e' ∧ c ≠ 'E'

theorem readMagnitude_digitsOfNat {negative : Bool} (hrest : EndsNumber rest)
    (hzero : negative = true → 0 < n) :
    readMagnitude negative (Text.digitsOfNat n ++ rest) =
      some (.int (if negative then -n else n), rest) := by
  have hdigits : (Text.digitsOfNat n ++ rest).takeWhile Text.isDigit = Text.digitsOfNat n :=
    Text.takeWhile_digitsOfNat fun c hc => (hrest c hc).1
  have hguard : (guard (((Text.digitsOfNat n ++ rest).takeWhile Text.isDigit).length = 1 ∨
      ((Text.digitsOfNat n ++ rest).takeWhile Text.isDigit).head? ≠ some '0') : Option Unit) =
        some () := by
    rw [hdigits]
    exact if_pos Text.digitsOfNat_plain
  have hnegative : (negative && n == 0) = false := by
    cases negative
    · rfl
    · have := hzero rfl
      simp
      omega
  unfold readMagnitude
  simp only [hdigits, Text.natOfDigits_digitsOfNat, ↓hguard, List.drop_left, Option.bind_eq_bind,
    Option.bind_some]
  rcases rest with _ | ⟨c, rest⟩
  · simp [hnegative]
  · obtain ⟨-, hpoint, he, hE⟩ := hrest c rfl
    simp [hpoint, he, hE, hnegative]

/-- The blanks of a text: those before a part of each level, and those after a colon. -/
structure Layout where
  gap : Nat → List Char
  space : List Char
  gap_blank : ∀ level, ∀ c ∈ gap level, isGap c = true
  space_blank : ∀ c ∈ space, isGap c = true

/-- No blanks at all. -/
def Layout.compact : Layout := ⟨fun _ => [], [], by simp, by simp⟩

/-- Every part on a line of its own. -/
def Layout.pretty : Layout where
  gap level := (newline level).toList
  space := [' ']
  gap_blank level c hc := by
    simp only [newline, String.toList_append, String.toList_ofList, List.mem_append] at hc
    rcases hc with hfeed | hblank
    · obtain rfl : c = '\n' := by simpa using hfeed
      rfl
    · rw [(List.mem_replicate.1 hblank).2]
      rfl
  space_blank := by simp [isGap]

namespace Layout

variable {level : Nat}

theorem gap_compact : compact.gap level = [] := rfl

theorem space_compact : compact.space = [] := rfl

theorem gap_pretty : pretty.gap level = (newline level).toList := rfl

theorem space_pretty : pretty.space = [' '] := rfl

end Layout

def spelledText (s : String) : List Char := '"' :: (s.toList.flatMap escapeChar ++ ['"'])

mutual

/-- The text of a value in a layout. -/
def spelled (layout : Layout) (level : Nat) : Json → List Char
  | null => "null".toList
  | bool b => if b then "true".toList else "false".toList
  | int n => Text.digitsOfInt n
  | real m e => Text.digitsOfInt m ++ 'e' :: Text.digitsOfInt e
  | str s => spelledText s
  | arr [] => ['[', ']']
  | arr (v :: rest) =>
    '[' :: (layout.gap (level + 1) ++ (spelled layout (level + 1) v ++
      (spelledItems layout (level + 1) rest ++ (layout.gap level ++ [']']))))
  | obj [] => ['\x7b', '\x7d']
  | obj ((k, v) :: rest) =>
    '\x7b' :: (layout.gap (level + 1) ++ (spelledText k ++ ':' :: (layout.space ++
      (spelled layout (level + 1) v ++ (spelledMembers layout (level + 1) rest ++
        (layout.gap level ++ ['\x7d']))))))

def spelledItems (layout : Layout) (level : Nat) : List Json → List Char
  | [] => []
  | v :: rest =>
    ',' :: (layout.gap level ++ (spelled layout level v ++ spelledItems layout level rest))

def spelledMembers (layout : Layout) (level : Nat) : List (String × Json) → List Char
  | [] => []
  | (k, v) :: rest =>
    ',' :: (layout.gap level ++ (spelledText k ++ ':' :: (layout.space ++
      (spelled layout level v ++ spelledMembers layout level rest))))

end

theorem spelledText_append {s : String} :
    spelledText s ++ rest = '"' :: (s.toList.flatMap escapeChar ++ '"' :: rest) := by
  simp [spelledText]

theorem readString_text {s : String} :
    readString ((s.toList.flatMap escapeChar ++ '"' :: rest).length + 1) []
      (s.toList.flatMap escapeChar ++ '"' :: rest) = some (s, rest) := by
  have hlength : s.toList.length < (s.toList.flatMap escapeChar ++ '"' :: rest).length + 1 := by
    have hescaped := length_le_escaped (s := s.toList)
    rw [List.length_append]
    omega
  rw [readString_spelled hlength]
  simp

theorem toList_quoted {s : String} : (quoted s).toList = spelledText s := by
  simp [quoted, spelledText]

theorem toList_joinWith {sep s : String} {texts : List String} :
    (Text.joinWith sep (s :: texts)).toList =
      s.toList ++ texts.flatMap fun t => sep.toList ++ t.toList := by
  induction texts generalizing s with
  | nil => simp [Text.joinWith]
  | cons t texts ih => simp [Text.joinWith, ih]

mutual

theorem toList_compact (level : Nat) : ∀ v : Json, v.compact.toList = spelled .compact level v
  | null => rfl
  | bool b => by cases b <;> rfl
  | int n => by simp [compact, spelled, Text.ofInt]
  | real m e => by simp [compact, spelled, Text.ofInt]
  | str s => by simp [compact, spelled, toList_quoted]
  | arr [] => rfl
  | arr (v :: rest) => by
    simp [compact, spelled, compactItems, toList_joinWith, toList_compact (level + 1) v,
      toList_compactItems (level + 1) rest, Layout.gap_compact]
  | obj [] => rfl
  | obj ((k, v) :: rest) => by
    simp [compact, spelled, compactMembers, toList_joinWith, toList_quoted,
      toList_compact (level + 1) v, toList_compactMembers (level + 1) rest, Layout.gap_compact,
      Layout.space_compact]

theorem toList_compactItems (level : Nat) : ∀ items : List Json,
    ((compactItems items).flatMap fun t => ',' :: t.toList) = spelledItems .compact level items
  | [] => rfl
  | v :: rest => by
    simp [compactItems, spelledItems, toList_compact level v, toList_compactItems level rest,
      Layout.gap_compact]

theorem toList_compactMembers (level : Nat) : ∀ members : List (String × Json),
    ((compactMembers members).flatMap fun t => ',' :: t.toList) =
      spelledMembers .compact level members
  | [] => rfl
  | (k, v) :: rest => by
    simp [compactMembers, spelledMembers, toList_quoted, toList_compact level v,
      toList_compactMembers level rest, Layout.gap_compact, Layout.space_compact]

end

mutual

theorem toList_pretty (level : Nat) : ∀ v : Json, (v.pretty level).toList = spelled .pretty level v
  | null => rfl
  | bool b => by cases b <;> rfl
  | int n => by simp [pretty, spelled, Text.ofInt]
  | real m e => by simp [pretty, spelled, Text.ofInt]
  | str s => by simp [pretty, spelled, toList_quoted]
  | arr [] => by simp [pretty, spelled]
  | arr (v :: rest) => by
    simp [pretty, spelled, prettyItems, toList_joinWith, toList_pretty (level + 1) v,
      toList_prettyItems (level + 1) rest, Layout.gap_pretty]
  | obj [] => by simp [pretty, spelled]
  | obj ((k, v) :: rest) => by
    simp [pretty, spelled, prettyMembers, toList_joinWith, toList_quoted,
      toList_pretty (level + 1) v, toList_prettyMembers (level + 1) rest, Layout.gap_pretty,
      Layout.space_pretty]

theorem toList_prettyItems (level : Nat) : ∀ items : List Json,
    ((prettyItems level items).flatMap fun t => ',' :: ((newline level).toList ++ t.toList)) =
      spelledItems .pretty level items
  | [] => rfl
  | v :: rest => by
    simp [prettyItems, spelledItems, toList_pretty level v, toList_prettyItems level rest,
      Layout.gap_pretty]

theorem toList_prettyMembers (level : Nat) : ∀ members : List (String × Json),
    ((prettyMembers level members).flatMap fun t => ',' :: ((newline level).toList ++ t.toList)) =
      spelledMembers .pretty level members
  | [] => rfl
  | (k, v) :: rest => by
    simp [prettyMembers, spelledMembers, toList_quoted, toList_pretty level v,
      toList_prettyMembers level rest, Layout.gap_pretty, Layout.space_pretty]

end

/-- A value that its texts give back: no number with a fraction or an exponent, every name once in
an object, lists and objects nested no deeper than this. -/
def Fits : Nat → Json → Prop
  | 0, arr _ => False
  | 0, obj _ => False
  | depth + 1, arr items => ∀ v ∈ items, Fits depth v
  | depth + 1, obj members => (members.map (·.1)).Nodup ∧ ∀ m ∈ members, Fits depth m.2
  | _, real _ _ => False
  | _, _ => True

variable {layout : Layout} {level : Nat} {v : Json} {items : List Json}

theorem readValue_quote : readValue (n + 1) depth ('"' :: cs) =
    (readString (cs.length + 1) [] cs).map fun p => (.str p.1, p.2) := by
  rw [readValue, skipBlank_cons rfl]
  rfl

theorem readValue_bracket : readValue (n + 1) (depth + 1) ('[' :: cs) =
    match skipBlank cs with
    | ']' :: rest => some (.arr [], rest)
    | rest => (readItems n depth rest).map fun p => (.arr p.1, p.2) := by
  rw [readValue, skipBlank_cons rfl]
  rfl

theorem readValue_items (hcs : skipBlank cs = c :: rest) (hc : c ≠ ']') :
    readValue (n + 1) (depth + 1) ('[' :: cs) =
      (readItems n depth (c :: rest)).map fun p => (.arr p.1, p.2) := by
  rw [readValue_bracket, hcs]
  split
  · next heq => exact absurd (List.cons.inj heq).1 hc
  · rfl

theorem readValue_brace : readValue (n + 1) (depth + 1) ('\x7b' :: cs) =
    match skipBlank cs with
    | '\x7d' :: rest => some (.obj [], rest)
    | rest => (readMembers n depth [] rest).map fun p => (.obj p.1, p.2) := by
  rw [readValue, skipBlank_cons rfl]
  rfl

theorem readValue_members (hcs : skipBlank cs = '"' :: rest) :
    readValue (n + 1) (depth + 1) ('\x7b' :: cs) =
      (readMembers n depth [] ('"' :: rest)).map fun p => (.obj p.1, p.2) := by
  rw [readValue_brace, hcs]
  rfl

theorem readValue_text {s : String} :
    readValue (n + 1) depth (spelledText s ++ rest) = some (.str s, rest) := by
  rw [spelledText_append, readValue_quote, readString_text]
  rfl

theorem readValue_digit (hc : Text.isDigit c = true) :
    readValue (n + 1) depth (c :: rest) = readMagnitude false (c :: rest) := by
  have hne : ∀ d, Text.isDigit d = false → c ≠ d := by
    rintro d hd rfl
    rw [hc] at hd
    cases hd
  rw [readValue, skipBlank_cons (isGap_of_isDigit hc)]
  split
  · next heq => exact absurd (List.cons.inj heq).1 (hne '"' rfl)
  · next heq => exact absurd (List.cons.inj heq).1 (hne '[' rfl)
  · next heq => exact absurd (List.cons.inj heq).1 (hne '\x7b' rfl)
  · next heq => exact absurd (List.cons.inj heq).1 (hne '-' rfl)
  · next heq =>
    obtain ⟨rfl, rfl⟩ := List.cons.inj heq
    rw [if_pos hc]
  · next heq => cases heq

theorem readValue_int (hrest : EndsNumber rest) (i : Int) :
    readValue (n + 1) depth (Text.digitsOfInt i ++ rest) = some (.int i, rest) := by
  rcases i with k | k
  · have hread : readMagnitude false (Text.digitsOfNat k ++ rest) = some (.int k, rest) :=
      readMagnitude_digitsOfNat hrest (by simp)
    change readValue (n + 1) depth (Text.digitsOfNat k ++ rest) = some (.int k, rest)
    rw [← hread]
    obtain ⟨c, cs, hdigits⟩ := List.exists_cons_of_ne_nil (Text.digitsOfNat_ne_nil (n := k))
    have hc : Text.isDigit c = true := Text.isDigit_of_mem_digitsOfNat (n := k) (by simp [hdigits])
    rw [hdigits]
    exact readValue_digit hc
  · change readValue (n + 1) depth ('-' :: (Text.digitsOfNat (k + 1) ++ rest)) = _
    rw [readValue, skipBlank_cons rfl]
    exact readMagnitude_digitsOfNat hrest fun _ => Nat.succ_pos k

theorem readValue_scalar (hrest : EndsNumber rest) (h : Fits 0 v) :
    readValue (n + 1) depth (spelled layout level v ++ rest) = some (v, rest) := by
  cases v with
  | null =>
    change readValue (n + 1) depth ('n' :: 'u' :: 'l' :: 'l' :: rest) = _
    rw [readValue, skipBlank_cons rfl]
    rfl
  | bool b =>
    cases b
    · change readValue (n + 1) depth ('f' :: 'a' :: 'l' :: 's' :: 'e' :: rest) = _
      rw [readValue, skipBlank_cons rfl]
      rfl
    · change readValue (n + 1) depth ('t' :: 'r' :: 'u' :: 'e' :: rest) = _
      rw [readValue, skipBlank_cons rfl]
      rfl
  | int i => exact readValue_int hrest i
  | real m e => cases h
  | str s => exact readValue_text
  | arr items => cases h
  | obj members => cases h

/-- No part of a text begins with a blank or with the end of a list or an object. -/
theorem spelled_eq_cons (layout : Layout) (level : Nat) (h : Fits depth v) :
    ∃ c cs, spelled layout level v = c :: cs ∧ isGap c = false ∧ c ≠ ']' := by
  cases v with
  | null => exact ⟨_, _, rfl, by decide, by decide⟩
  | bool b => cases b <;> exact ⟨_, _, rfl, by decide, by decide⟩
  | int i =>
    rcases i with k | k
    · obtain ⟨c, cs, hdigits⟩ := List.exists_cons_of_ne_nil (Text.digitsOfNat_ne_nil (n := k))
      have hc : Text.isDigit c = true :=
        Text.isDigit_of_mem_digitsOfNat (n := k) (by simp [hdigits])
      refine ⟨c, cs, hdigits, isGap_of_isDigit hc, ?_⟩
      rintro rfl
      cases hc
    · exact ⟨_, _, rfl, by decide, by decide⟩
  | real m e => cases depth <;> cases h
  | str s => exact ⟨_, _, rfl, by decide, by decide⟩
  | arr items => cases items <;> exact ⟨_, _, rfl, by decide, by decide⟩
  | obj members =>
    rcases members with _ | ⟨⟨k, v⟩, rest⟩ <;> exact ⟨_, _, rfl, by decide, by decide⟩

theorem endsNumber_of_mark {mark : Char} (hmark : mark ∈ [',', ']', '\x7d']) :
    EndsNumber (mark :: rest) := by
  intro c hc
  obtain rfl : mark = c := by simpa using hc
  simp only [List.mem_cons, List.not_mem_nil, or_false] at hmark
  rcases hmark with rfl | rfl | rfl <;> decide

theorem endsNumber_gap {mark : Char} (hgap : ∀ c ∈ gap, isGap c = true)
    (hmark : mark ∈ [',', ']', '\x7d']) : EndsNumber (gap ++ mark :: rest) := by
  rcases gap with _ | ⟨blank, gap⟩
  · exact endsNumber_of_mark hmark
  · intro c hc
    obtain rfl : blank = c := by simpa using hc
    have hblank := hgap blank List.mem_cons_self
    simp only [isGap, Bool.or_eq_true, decide_eq_true_eq] at hblank
    rcases hblank with ((rfl | rfl) | rfl) | rfl <;> decide

theorem endsNumber_spelledItems {outer : Nat} :
    EndsNumber (spelledItems layout level items ++ (layout.gap outer ++ ']' :: rest)) := by
  cases items with
  | nil => exact endsNumber_gap (layout.gap_blank outer) (by decide)
  | cons v items => exact endsNumber_of_mark (by decide)

theorem endsNumber_spelledMembers {members : List (String × Json)} {outer : Nat} :
    EndsNumber (spelledMembers layout level members ++ (layout.gap outer ++ '\x7d' :: rest)) := by
  cases members with
  | nil => exact endsNumber_gap (layout.gap_blank outer) (by decide)
  | cons m members => exact endsNumber_of_mark (by decide)

/-- The value is read back from its text, whatever follows, if there is fuel for each character. -/
def ReadsBack (layout : Layout) (depth : Nat) (v : Json) : Prop :=
  ∀ level fuel rest, EndsNumber rest → 2 * (spelled layout level v).length ≤ fuel →
    readValue fuel depth (spelled layout level v ++ rest) = some (v, rest)

theorem readItems_spelled {outer : Nat} (hfirst : ReadsBack layout depth v)
    (hitems : ∀ w ∈ items, ReadsBack layout depth w) (hgap : ∀ c ∈ gap, isGap c = true)
    (hfuel : 2 * ((spelled layout level v).length + (spelledItems layout level items).length) <
      fuel) :
    readItems fuel depth (gap ++ (spelled layout level v ++ (spelledItems layout level items ++
      (layout.gap outer ++ ']' :: rest)))) = some (v :: items, rest) := by
  induction items generalizing v gap fuel with
  | nil =>
    obtain ⟨fuel, rfl⟩ : ∃ n, fuel = n + 1 := ⟨fuel - 1, by omega⟩
    rw [readItems, readValue_gap hgap, hfirst level fuel _ endsNumber_spelledItems (by omega)]
    simp only [spelledItems, List.nil_append, Option.bind_eq_bind, Option.bind_some,
      skipBlank_gap (layout.gap_blank outer), skipBlank_cons (show isGap ']' = false from rfl)]
  | cons w items ih =>
    obtain ⟨fuel, rfl⟩ : ∃ n, fuel = n + 1 := ⟨fuel - 1, by omega⟩
    obtain ⟨hw, hrest⟩ := List.forall_mem_cons.1 hitems
    simp only [spelledItems, List.length_cons, List.length_append] at hfuel
    have hlater : readItems fuel depth (layout.gap level ++ (spelled layout level w ++
        (spelledItems layout level items ++ (layout.gap outer ++ ']' :: rest)))) =
          some (w :: items, rest) := ih hw hrest (layout.gap_blank level) (by omega)
    rw [readItems, readValue_gap hgap, hfirst level fuel _ endsNumber_spelledItems (by omega)]
    simp only [spelledItems, List.cons_append, List.append_assoc, Option.bind_eq_bind,
      Option.bind_some, skipBlank_cons (show isGap ',' = false from rfl), hlater, Option.map_some]

theorem put_of_not_mem {key : String} {value : Json} {members : List (String × Json)}
    (h : key ∉ members.map (·.1)) : put key value members = members ++ [(key, value)] := by
  rw [put, if_neg]
  rw [List.any_eq_true]
  rintro ⟨m, hm, hkey⟩
  exact h (List.mem_map.2 ⟨m, hm, by simpa using hkey⟩)

theorem not_mem_of_nodup {m : String × Json} {members earlier : List (String × Json)}
    (h : ((earlier ++ m :: members).map (·.1)).Nodup) : m.1 ∉ earlier.map (·.1) := by
  rw [List.map_append, List.map_cons, List.nodup_append] at h
  exact fun hmem => h.2.2 m.1 hmem m.1 List.mem_cons_self rfl

theorem readMembers_member {key : String} {earlier : List (String × Json)} {text : List Char}
    (hgap : ∀ c ∈ gap, isGap c = true)
    (hread : readValue n depth (text ++ rest) = some (v, rest)) :
    readMembers (n + 1) depth earlier
        (gap ++ (spelledText key ++ ':' :: (layout.space ++ (text ++ rest)))) =
      match skipBlank rest with
      | ',' :: rest => readMembers n depth (put key v earlier) rest
      | '\x7d' :: rest => some (put key v earlier, rest)
      | _ => none := by
  have hvalue : readValue n depth (layout.space ++ (text ++ rest)) = some (v, rest) := by
    rw [readValue_gap layout.space_blank, hread]
  rw [readMembers, skipBlank_gap hgap, spelledText_append, skipBlank_cons rfl]
  simp only [readString_text, Option.bind_eq_bind, Option.bind_some,
    skipBlank_cons (show isGap ':' = false from rfl)]
  exact congrArg (Option.bind · _) hvalue

theorem readMembers_spelled {outer : Nat} {key : String} {members earlier : List (String × Json)}
    (hfirst : ReadsBack layout depth v) (hmembers : ∀ m ∈ members, ReadsBack layout depth m.2)
    (hdistinct : ((earlier ++ (key, v) :: members).map (·.1)).Nodup)
    (hgap : ∀ c ∈ gap, isGap c = true)
    (hfuel : 2 * ((spelled layout level v).length + (spelledMembers layout level members).length) <
      fuel) :
    readMembers fuel depth earlier (gap ++ (spelledText key ++ ':' :: (layout.space ++
      (spelled layout level v ++ (spelledMembers layout level members ++
        (layout.gap outer ++ '\x7d' :: rest)))))) =
      some (earlier ++ (key, v) :: members, rest) := by
  induction members generalizing v gap fuel key earlier with
  | nil =>
    obtain ⟨fuel, rfl⟩ : ∃ n, fuel = n + 1 := ⟨fuel - 1, by omega⟩
    rw [readMembers_member hgap (hfirst level fuel _ endsNumber_spelledMembers (by omega)),
      put_of_not_mem (not_mem_of_nodup hdistinct)]
    simp only [spelledMembers, List.nil_append, skipBlank_gap (layout.gap_blank outer),
      skipBlank_cons (show isGap '\x7d' = false from rfl)]
  | cons m members ih =>
    obtain ⟨fuel, rfl⟩ : ∃ n, fuel = n + 1 := ⟨fuel - 1, by omega⟩
    obtain ⟨hm, hrest⟩ := List.forall_mem_cons.1 hmembers
    obtain ⟨k, w⟩ := m
    simp only [spelledMembers, List.length_cons, List.length_append] at hfuel
    have hlater : readMembers fuel depth (earlier ++ [(key, v)]) (layout.gap level ++
        (spelledText k ++ ':' :: (layout.space ++ (spelled layout level w ++
          (spelledMembers layout level members ++ (layout.gap outer ++ '\x7d' :: rest)))))) =
            some ((earlier ++ [(key, v)]) ++ (k, w) :: members, rest) :=
      ih hm hrest (by simpa using hdistinct) (layout.gap_blank level) (by omega)
    rw [readMembers_member hgap (hfirst level fuel _ endsNumber_spelledMembers (by omega)),
      put_of_not_mem (not_mem_of_nodup hdistinct)]
    simp only [spelledMembers, List.cons_append, List.append_assoc,
      skipBlank_cons (show isGap ',' = false from rfl)]
    simpa using hlater

theorem exists_fuel (h : Fits depth v) (hfuel : 2 * (spelled layout level v).length ≤ fuel) :
    ∃ n, fuel = n + 1 ∧ 2 * (spelled layout level v).length ≤ n + 1 := by
  obtain ⟨c, cs, hspelled, -⟩ := spelled_eq_cons layout level h
  rw [hspelled, List.length_cons] at hfuel ⊢
  exact ⟨fuel - 1, by omega, by omega⟩

/-- A value is read back from its text in any layout, up to the depth that it is read to. -/
theorem readsBack (h : Fits depth v) : ReadsBack layout depth v := by
  induction depth generalizing v with
  | zero =>
    intro level fuel rest hrest hfuel
    obtain ⟨fuel, rfl, -⟩ := exists_fuel h hfuel
    exact readValue_scalar hrest h
  | succ depth ih =>
    intro level fuel rest hrest hfuel
    obtain ⟨fuel, rfl, hfuel⟩ := exists_fuel h hfuel
    cases v with
    | arr items =>
      rcases items with _ | ⟨w, items⟩
      · change readValue (fuel + 1) (depth + 1) ('[' :: ']' :: rest) = _
        rw [readValue_bracket, skipBlank_cons rfl]
        rfl
      · obtain ⟨hw, hitems⟩ := List.forall_mem_cons.1 h
        obtain ⟨c, cs, hspelled, hc, hend⟩ := spelled_eq_cons layout (level + 1) hw
        simp only [spelled, List.length_cons, List.length_append] at hfuel
        have hread : readItems fuel depth ([] ++ (spelled layout (level + 1) w ++
            (spelledItems layout (level + 1) items ++ (layout.gap level ++ ']' :: rest)))) =
              some (w :: items, rest) :=
          readItems_spelled (ih hw) (fun w hw => ih (hitems w hw)) (by simp) (by omega)
        have hskip (tail : List Char) :
            skipBlank (layout.gap (level + 1) ++ (spelled layout (level + 1) w ++ tail)) =
              c :: (cs ++ tail) := by
          rw [skipBlank_gap (layout.gap_blank _), hspelled, List.cons_append, skipBlank_cons hc]
        rw [hspelled, List.nil_append, List.cons_append] at hread
        simp only [spelled, List.cons_append, List.append_assoc, List.nil_append]
        rw [readValue_items (hskip _) hend, hread]
        rfl
    | obj members =>
      rcases members with _ | ⟨⟨k, w⟩, members⟩
      · change readValue (fuel + 1) (depth + 1) ('\x7b' :: '\x7d' :: rest) = _
        rw [readValue_brace, skipBlank_cons rfl]
        rfl
      · obtain ⟨hdistinct, hmembers⟩ := h
        obtain ⟨hw, hmembers⟩ := List.forall_mem_cons.1 hmembers
        simp only [spelled, List.length_cons, List.length_append] at hfuel
        have hread : readMembers fuel depth [] ([] ++ (spelledText k ++ ':' :: (layout.space ++
            (spelled layout (level + 1) w ++ (spelledMembers layout (level + 1) members ++
              (layout.gap level ++ '\x7d' :: rest)))))) = some ([] ++ (k, w) :: members, rest) :=
          readMembers_spelled (ih hw) (fun m hm => ih (hmembers m hm)) hdistinct (by simp)
            (by omega)
        have hskip (tail : List Char) : skipBlank (layout.gap (level + 1) ++
            (spelledText k ++ tail)) = spelledText k ++ tail := by
          rw [skipBlank_gap (layout.gap_blank _), spelledText_append, skipBlank_cons rfl]
        simp only [spelled, List.cons_append, List.append_assoc, List.nil_append]
        rw [readValue_members ((hskip _).trans spelledText_append), ← spelledText_append,
          ← List.nil_append (spelledText k ++ _), hread]
        rfl
    | real m e => cases h
    | null | bool | int | str => exact readValue_scalar hrest trivial

theorem read?_of_spelled {s : String} (h : Fits maxDepth v)
    (hs : s.toList = spelled layout level v) : read? s = some v := by
  have hread : readValue (2 * s.toList.length + 2) maxDepth (spelled layout level v ++ []) =
      some (v, []) :=
    readsBack h level (2 * s.toList.length + 2) [] (by simp [EndsNumber]) (by rw [hs]; omega)
  rw [List.append_nil, ← hs] at hread
  rw [read?, hread]
  rfl

theorem read?_compact (h : Fits maxDepth v) : read? v.compact = some v :=
  read?_of_spelled h (toList_compact 0 v)

theorem read?_pretty (h : Fits maxDepth v) : read? (v.pretty level) = some v :=
  read?_of_spelled h (toList_pretty level v)

end MeshTestbed.Json
