import MeshTestbed.Text.Blank
import MeshTestbed.Text.Lines
import Mathlib.Data.List.DropRight
import Mathlib.Data.List.Induction

/-!
`readLines` reads a text from its first character to its last, with the line that it is in. It reads
the lines of `Text.lines` if a carriage return at the end of one makes no difference.
-/

namespace MeshTestbed.Text

variable {β : Type} {read : List Char → Option β} {p : Char → Bool} {c : Char}
  {cs xs ys zs line : List Char}

/-- What is read from the lines of a text if its first one goes on from `line`. -/
def readLines (read : List Char → Option β) (line : List Char) : List Char → List β
  | [] => (read line).toList
  | c :: cs =>
    if c = '\n' then (read line).toList ++ readLines read [] cs
    else readLines read (line ++ [c]) cs

theorem readLines_newline :
    readLines read line ('\n' :: cs) = (read line).toList ++ readLines read [] cs := rfl

theorem readLines_cons (hc : c ≠ '\n') :
    readLines read line (c :: cs) = readLines read (line ++ [c]) cs :=
  if_neg hc

theorem readLines_append (h : '\n' ∉ xs) :
    readLines read line (xs ++ ys) = readLines read (line ++ xs) ys := by
  induction xs generalizing line with
  | nil => simp
  | cons c xs ih =>
    obtain ⟨hc, hxs⟩ : ¬ '\n' = c ∧ '\n' ∉ xs := by simpa using h
    rw [List.cons_append, readLines_cons (Ne.symm hc), ih hxs, List.append_assoc,
      List.singleton_append]

theorem readLines_line (h : '\n' ∉ xs) : readLines read line xs = (read (line ++ xs)).toList := by
  rw [← List.append_nil xs, readLines_append h, List.append_nil, readLines]

theorem readLines_append_newline :
    readLines read line (xs ++ '\n' :: ys) = readLines read line xs ++ readLines read [] ys := by
  induction xs generalizing line with
  | nil => rfl
  | cons c xs ih =>
    by_cases hc : c = '\n'
    · subst hc
      rw [List.cons_append, readLines_newline, readLines_newline, ih, List.append_assoc]
    · rw [List.cons_append, readLines_cons hc, readLines_cons hc, ih]

theorem filterMap_cons_toList {α : Type} {f : α → Option β} {x : α} {xs : List α} :
    (x :: xs).filterMap f = (f x).toList ++ xs.filterMap f := by
  rcases h : f x with _ | b <;> simp [h]

theorem filterMap_map_eq_self {α γ : Type} {print : α → γ} {reread : γ → Option α} {xs : List α}
    (h : ∀ x ∈ xs, reread (print x) = some x) : (xs.map print).filterMap reread = xs := by
  rw [List.filterMap_map]
  exact (List.filterMap_congr h).trans List.filterMap_some

theorem readLines_unlines {ls : List String} (hnil : read [] = none)
    (hlines : ∀ l ∈ ls, '\n' ∉ l.toList) :
    readLines read [] (unlines ls).toList = ls.filterMap fun l => read l.toList := by
  induction ls with
  | nil => simp [unlines, readLines, hnil]
  | cons l ls ih =>
    obtain ⟨hl, hls⟩ := List.forall_mem_cons.1 hlines
    have htext : (unlines (l :: ls)).toList = l.toList ++ '\n' :: (unlines ls).toList := by
      have hnewline : "\n".toList = ['\n'] := rfl
      simp [unlines, hnewline]
    rw [filterMap_cons_toList, ← ih hls, htext, readLines_append_newline, readLines_line hl,
      List.nil_append]

theorem readLines_joinWith {ls : List String} (hnil : read [] = none)
    (hlines : ∀ l ∈ ls, '\n' ∉ l.toList) :
    readLines read [] (joinWith "\n" ls).toList = ls.filterMap fun l => read l.toList := by
  induction ls with
  | nil => simp [joinWith, readLines, hnil]
  | cons l ls ih =>
    obtain ⟨hl, hls⟩ := List.forall_mem_cons.1 hlines
    rw [filterMap_cons_toList, ← ih hls]
    -- The last line ends without a line feed.
    rcases ls with _ | ⟨l', ls⟩
    · have hnone : readLines read [] (joinWith "\n" []).toList = [] := by
        simp [joinWith, readLines, hnil]
      rw [hnone, List.append_nil, joinWith, readLines_line hl, List.nil_append]
    · have htext : (joinWith "\n" (l :: l' :: ls)).toList =
          l.toList ++ '\n' :: (joinWith "\n" (l' :: ls)).toList := by
        have hnewline : "\n".toList = ['\n'] := rfl
        simp [joinWith, hnewline]
      rw [htext, readLines_append_newline, readLines_line hl, List.nil_append]

theorem mem_readLines {b : β} (hline : '\n' ∉ line) (h : b ∈ readLines read line cs) :
    ∃ l, read l = some b ∧ l <:+: line ++ cs ∧ '\n' ∉ l := by
  induction cs generalizing line with
  | nil => exact ⟨line, by simpa [readLines] using h, by simp, hline⟩
  | cons c cs ih =>
    by_cases hc : c = '\n'
    · subst hc
      rw [readLines_newline, List.mem_append] at h
      rcases h with hhere | hlater
      · exact ⟨line, by simpa using hhere, (List.prefix_append _ _).isInfix, hline⟩
      · obtain ⟨l, hread, hinside, hl⟩ := ih (by simp) hlater
        have hsuffix : cs <:+ line ++ '\n' :: cs :=
          (List.suffix_cons _ _).trans (List.suffix_append _ _)
        exact ⟨l, hread, hinside.trans hsuffix.isInfix, hl⟩
    · rw [readLines_cons hc] at h
      obtain ⟨l, hread, hinside, hl⟩ := ih (by simp [hline, Ne.symm hc]) h
      exact ⟨l, hread, by simpa using hinside, hl⟩

/-- The first of some lines goes on from `line`. -/
def extendHead (line : List Char) : List (List Char) → List (List Char)
  | [] => [line]
  | l :: ls => (line ++ l) :: ls

theorem extendHead_consHead {ls : List (List Char)} :
    extendHead line (consHead c ls) = extendHead (line ++ [c]) ls := by
  cases ls <;> simp [extendHead, consHead]

theorem filterMap_extendHead_nil (hnil : read [] = none) {ls : List (List Char)} :
    (extendHead [] ls).filterMap read = ls.filterMap read := by
  cases ls with
  | nil => simp [extendHead, hnil]
  | cons l ls => rfl

theorem filterMap_extendHead_lines (hnil : read [] = none)
    (hreturn : ∀ line, read (line ++ ['\r']) = read line) :
    (extendHead line (lines cs)).filterMap read = readLines read line cs := by
  induction cs using lines.induct generalizing line with
  | case1 => exact filterMap_cons_toList.trans (List.append_nil _)
  | case2 cs ih =>
    rw [lines, extendHead, List.append_nil, filterMap_cons_toList, readLines_newline, ← ih,
      filterMap_extendHead_nil hnil]
  | case3 cs ih =>
    rw [lines, extendHead, List.append_nil, filterMap_cons_toList, readLines_cons (by decide),
      readLines_newline, hreturn, ← ih, filterMap_extendHead_nil hnil]
  | case4 c cs hnewline hreturned ih =>
    rw [lines, extendHead_consHead, ih, readLines_cons hnewline]
    · exact hnewline
    · exact hreturned

/-- A reading that does not see a carriage return at the end of a line reads the lines. -/
theorem filterMap_lines (hnil : read [] = none)
    (hreturn : ∀ line, read (line ++ ['\r']) = read line) :
    (lines cs).filterMap read = readLines read [] cs := by
  rw [← filterMap_extendHead_lines hnil hreturn, filterMap_extendHead_nil hnil]

/-- Nothing is read from an empty line, and blanks around a line are not seen. -/
structure SkipsBlanks (read : List Char → Option β) : Prop where
  nil : read [] = none
  cons : ∀ c line, isBlank c = true → read (c :: line) = read line
  concat : ∀ c line, isBlank c = true → read (line ++ [c]) = read line

theorem SkipsBlanks.skipsReturn (hread : SkipsBlanks read) (line : List Char) :
    read (line ++ ['\r']) = read line :=
  hread.concat '\r' line (by decide)

theorem readLines_of_blank_head (hread : SkipsBlanks read) (hc : isBlank c = true) :
    readLines read (c :: line) cs = readLines read line cs := by
  induction cs generalizing line with
  | nil => rw [readLines, readLines, hread.cons c line hc]
  | cons d cs ih =>
    by_cases hd : d = '\n'
    · subst hd
      rw [readLines_newline, readLines_newline, hread.cons c line hc]
    · rw [readLines_cons hd, readLines_cons hd, List.cons_append, ih]

theorem readLines_cons_blank (hread : SkipsBlanks read) (hc : isBlank c = true) :
    readLines read [] (c :: cs) = readLines read [] cs := by
  by_cases hnewline : c = '\n'
  · subst hnewline
    rw [readLines_newline, hread.nil]
    rfl
  · rw [readLines_cons hnewline]
    exact readLines_of_blank_head hread hc

theorem readLines_concat_blank (hread : SkipsBlanks read) (hc : isBlank c = true) :
    readLines read line (cs ++ [c]) = readLines read line cs := by
  induction cs generalizing line with
  | nil =>
    by_cases hnewline : c = '\n'
    · subst hnewline
      simp [readLines, hread.nil]
    · simp [readLines, hnewline, hread.concat c line hc]
  | cons d cs ih =>
    by_cases hd : d = '\n'
    · subst hd
      rw [List.cons_append, readLines_newline, readLines_newline, ih]
    · rw [List.cons_append, readLines_cons hd, readLines_cons hd, ih]

theorem readLines_trimStart (hread : SkipsBlanks read) :
    readLines read [] (trimStart cs) = readLines read [] cs := by
  unfold trimStart
  induction cs with
  | nil => rfl
  | cons c cs ih =>
    by_cases hc : isBlank c = true
    · rw [List.dropWhile_cons_of_pos hc, ih, readLines_cons_blank hread hc]
    · rw [List.dropWhile_cons_of_neg hc]

theorem readLines_trimEnd (hread : SkipsBlanks read) :
    readLines read line (trimEnd cs) = readLines read line cs := by
  unfold trimEnd
  induction cs using List.reverseRecOn with
  | nil => rfl
  | append_singleton cs c ih =>
    rw [List.reverse_append, List.reverse_singleton, List.singleton_append]
    by_cases hc : isBlank c = true
    · rw [List.dropWhile_cons_of_pos hc, ih, readLines_concat_blank hread hc]
    · rw [List.dropWhile_cons_of_neg hc, List.reverse_cons, List.reverse_reverse]

theorem readLines_trim (hread : SkipsBlanks read) :
    readLines read [] (trim cs) = readLines read [] cs := by
  rw [trim, readLines_trimEnd hread, readLines_trimStart hread]

theorem trim_cons_blank (hc : isBlank c = true) : trim (c :: cs) = trim cs := by
  rw [trim, trimStart, List.dropWhile_cons_of_pos hc]
  rfl

theorem trimEnd_concat_blank (hc : isBlank c = true) : trimEnd (cs ++ [c]) = trimEnd cs := by
  rw [trimEnd, List.reverse_append, List.reverse_singleton, List.singleton_append,
    List.dropWhile_cons_of_pos hc]
  rfl

theorem trimEnd_append :
    trimEnd (xs ++ ys) = if (trimEnd ys).isEmpty then trimEnd xs else xs ++ trimEnd ys := by
  unfold trimEnd
  rw [List.reverse_append, List.dropWhile_append, List.isEmpty_reverse]
  split
  · rfl
  · rw [List.reverse_append, List.reverse_reverse]

theorem trim_concat_blank (hc : isBlank c = true) : trim (cs ++ [c]) = trim cs := by
  unfold trim trimStart
  rw [List.dropWhile_append]
  split
  · next hblank =>
    rw [List.dropWhile_cons_of_pos hc, List.isEmpty_iff.1 hblank]
    rfl
  · exact trimEnd_concat_blank hc

theorem trim_of_no_blank (h : ∀ c ∈ cs, isBlank c = false) : trim cs = cs := by
  have hkeep (xs : List Char) (hxs : ∀ c ∈ xs, isBlank c = false) :
      xs.dropWhile isBlank = xs := by
    cases xs with
    | nil => rfl
    | cons c xs => exact List.dropWhile_cons_of_neg (by simp [hxs c])
  rw [trim, trimStart, hkeep cs h, trimEnd, hkeep _ (by simpa using h), List.reverse_reverse]

/-- Cuts characters of the class `p` off the end. -/
def cutEnd (p : Char → Bool) (cs : List Char) : List Char := (cs.reverse.dropWhile p).reverse

theorem cutEnd_isPrefix : cutEnd p cs <+: cs := List.rdropWhile_prefix p cs

theorem cutEnd_eq_self_iff : cutEnd p cs = cs ↔ ∀ c ∈ cs.getLast?, p c = false := by
  refine List.rdropWhile_eq_self_iff.trans ?_
  rcases List.eq_nil_or_concat cs with rfl | ⟨init, last, rfl⟩ <;> simp

theorem dropWhile_eq_self_iff : cs.dropWhile p = cs ↔ ∀ c ∈ cs.head?, p c = false := by
  refine List.dropWhile_eq_self_iff.trans ?_
  cases cs <;> simp

theorem trimEnd_trim : trimEnd (trim cs) = trim cs := List.rdropWhile_idempotent isBlank _

theorem trim_trim : trim (trim cs) = trim cs := by
  have hstart : trimStart (trim cs) = trim cs := by
    refine dropWhile_eq_self_iff.2 fun c hc => ?_
    obtain ⟨xs, hxs⟩ : ∃ xs, trim cs = c :: xs := List.head?_eq_some_iff.1 hc
    obtain ⟨rest, hrest⟩ : trim cs <+: trimStart cs := cutEnd_isPrefix
    have hkept : (trimStart cs).dropWhile isBlank = trimStart cs := List.dropWhile_idempotent _ _
    exact dropWhile_eq_self_iff.1 hkept c (by rw [← hrest, hxs]; rfl)
  rw [trim, hstart, trimEnd_trim]

theorem dropWhile_append_of_kept {kept : Char} (hkept : p kept = false) :
    (xs ++ kept :: ys).dropWhile p = xs.dropWhile p ++ kept :: ys := by
  rw [List.dropWhile_append]
  split
  · next hempty =>
    rw [List.dropWhile_cons_of_neg (by simp [hkept]), List.isEmpty_iff.1 hempty, List.nil_append]
  · rfl

theorem cutEnd_append {last : Char} (hlast : p last = false) :
    cutEnd p (xs ++ last :: ys) = xs ++ last :: cutEnd p ys := by
  simp only [cutEnd, List.reverse_append, List.reverse_cons, List.append_assoc,
    List.singleton_append, dropWhile_append_of_kept hlast, List.reverse_reverse]

theorem stripEnds_append {first last : Char} (hfirst : p first = false) (hlast : p last = false) :
    stripEnds p (xs ++ first :: (ys ++ last :: zs)) =
      xs.dropWhile p ++ first :: (ys ++ last :: cutEnd p zs) := by
  have hbehind (start : List Char) : cutEnd p (start ++ first :: (ys ++ last :: zs)) =
      start ++ first :: (ys ++ last :: cutEnd p zs) := by
    rw [cutEnd_append hfirst, cutEnd_append hlast]
  unfold stripEnds
  rw [dropWhile_append_of_kept hfirst]
  exact hbehind _

end MeshTestbed.Text
