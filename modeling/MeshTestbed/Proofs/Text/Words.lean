import MeshTestbed.Proofs.Text.Lines

namespace MeshTestbed.Text

variable {p : Char → Bool} {c : Char} {cs blanks word rest : List Char} {ws : List (List Char)}

/-- Words with blanks between them, and perhaps before and behind them. -/
inductive Spaced : List (List Char) → List Char → Prop where
  | blanks (blanks : List Char) (hblanks : ∀ c ∈ blanks, isBlank c = true) : Spaced [] blanks
  | word (blanks word : List Char) {rest : List Char} {ws : List (List Char)}
      (hblanks : ∀ c ∈ blanks, isBlank c = true) (hne : word ≠ [])
      (hword : ∀ c ∈ word, isBlank c = false) (hrest : ∀ c ∈ rest.head?, isBlank c = true)
      (hws : Spaced ws rest) : Spaced (word :: ws) (blanks ++ (word ++ rest))

theorem exists_splitWhere (p : Char → Bool) (cs : List Char) :
    ∃ l ls, splitWhere p cs = l :: ls := by
  induction cs with
  | nil => exact ⟨[], [], rfl⟩
  | cons c cs ih =>
    obtain ⟨l, ls, hsplit⟩ := ih
    unfold splitWhere
    split
    · exact ⟨[], _, rfl⟩
    · exact ⟨c :: l, ls, by rw [hsplit, consHead]⟩

theorem splitWhere_append (hword : ∀ c ∈ word, p c = false) :
    splitWhere p (word ++ cs) = extendHead word (splitWhere p cs) := by
  obtain ⟨l, ls, hsplit⟩ := exists_splitWhere p cs
  rw [hsplit]
  induction word with
  | nil => exact hsplit
  | cons c word ih =>
    obtain ⟨hc, hword⟩ := List.forall_mem_cons.1 hword
    rw [List.cons_append, splitWhere, if_neg (by simp [hc]), ih hword]
    rfl

theorem words_blanks_append (hblanks : ∀ c ∈ blanks, isBlank c = true) :
    words (blanks ++ cs) = words cs := by
  induction blanks with
  | nil => rfl
  | cons c blanks ih =>
    obtain ⟨hc, hblanks⟩ := List.forall_mem_cons.1 hblanks
    rw [List.cons_append, words_cons_of_isBlank hc, ih hblanks]

theorem words_word_append (hne : word ≠ []) (hword : ∀ c ∈ word, isBlank c = false)
    (hrest : ∀ c ∈ rest.head?, isBlank c = true) : words (word ++ rest) = word :: words rest := by
  have hkept : word.isEmpty = false := by simpa using hne
  rw [words, splitWhere_append hword]
  rcases rest with _ | ⟨c, rest⟩
  · simp [splitWhere, extendHead, hkept, words_nil]
  · have hc : isBlank c = true := hrest c rfl
    rw [words_cons_of_isBlank hc, splitWhere, if_pos hc, extendHead, List.append_nil,
      List.filter_cons_of_pos (by simp [hkept]), words]

theorem Spaced.words_eq (h : Spaced ws cs) : words cs = ws := by
  induction h with
  | blanks blanks hblanks => rw [← List.append_nil blanks, words_blanks_append hblanks, words_nil]
  | word blanks word hblanks hne hword hrest _ ih =>
    rw [words_blanks_append hblanks, words_word_append hne hword hrest, ih]

theorem Spaced.cons_blank (hc : isBlank c = true) (h : Spaced ws cs) : Spaced ws (c :: cs) := by
  cases h with
  | blanks blanks hblanks => exact .blanks (c :: cs) (List.forall_mem_cons.2 ⟨hc, hblanks⟩)
  | word blanks word hblanks hne hword hrest hws =>
    exact .word (c :: blanks) word (List.forall_mem_cons.2 ⟨hc, hblanks⟩) hne hword hrest hws

/-- Another character begins a word or goes on with the one behind it. -/
theorem Spaced.exists_cons (hc : isBlank c = false) (h : Spaced ws cs) :
    ∃ ws', Spaced ws' (c :: cs) := by
  have halone : ∀ x ∈ [c], isBlank x = false := List.forall_mem_singleton.2 hc
  cases h with
  | blanks blanks hblanks =>
    have hrest : ∀ x ∈ cs.head?, isBlank x = true := fun x hx =>
      hblanks x (List.mem_of_mem_head? hx)
    exact ⟨_, .word [] [c] (by simp) (by simp) halone hrest (.blanks cs hblanks)⟩
  | word blanks word hblanks hne hword hrest hws =>
    -- the next word begins at once, or blanks part it from a word of one character
    rcases blanks with _ | ⟨b, blanks⟩
    · exact ⟨_, .word [] (c :: word) (by simp) (by simp) (List.forall_mem_cons.2 ⟨hc, hword⟩) hrest
        hws⟩
    · refine ⟨_, .word [] [c] (by simp) (by simp) halone (fun x hx => ?_)
        (.word (b :: blanks) word hblanks hne hword hrest hws)⟩
      obtain rfl : b = x := Option.some.inj hx
      exact hblanks b List.mem_cons_self

theorem exists_spaced (cs : List Char) : ∃ ws, Spaced ws cs := by
  induction cs with
  | nil => exact ⟨[], .blanks [] (by simp)⟩
  | cons c cs ih =>
    obtain ⟨ws, hws⟩ := ih
    by_cases hc : isBlank c = true
    · exact ⟨ws, hws.cons_blank hc⟩
    · exact hws.exists_cons (by simpa using hc)

theorem words_eq_iff : words cs = ws ↔ Spaced ws cs := by
  constructor
  · rintro rfl
    obtain ⟨ws, hws⟩ := exists_spaced cs
    rw [hws.words_eq]
    exact hws
  · exact Spaced.words_eq

/-- Some text without a blank. -/
structure IsWord (cs : List Char) : Prop where
  ne_nil : cs ≠ []
  chars : ∀ c ∈ cs, isBlank c = false

theorem isWord_iff : IsWord cs ↔ (!cs.isEmpty && cs.all fun c => !isBlank c) = true := by
  constructor
  · intro h
    simpa using And.intro h.ne_nil h.chars
  · intro h
    obtain ⟨hne, hchars⟩ : cs ≠ [] ∧ ∀ c ∈ cs, isBlank c = false := by simpa using h
    exact ⟨hne, hchars⟩

instance : Decidable (IsWord cs) := decidable_of_iff _ isWord_iff.symm

theorem IsWord.not_mem (h : IsWord word) (hc : isBlank c = true) : c ∉ word := fun hmem =>
  absurd (h.chars c hmem) (by simp [hc])

theorem Spaced.isWord (h : Spaced ws cs) : ∀ word ∈ ws, IsWord word := by
  induction h with
  | blanks => simp
  | word _ _ _ hne hword _ _ ih => exact List.forall_mem_cons.2 ⟨⟨hne, hword⟩, ih⟩

theorem IsWord.spaced (h : IsWord word) : Spaced [word] word := by
  have hempty : Spaced [] [] := .blanks [] (by simp)
  simpa using Spaced.word [] word (by simp) h.ne_nil h.chars (by simp) hempty

theorem Spaced.cons_word (hword : IsWord word) (hc : isBlank c = true) (h : Spaced ws rest) :
    Spaced (word :: ws) (word ++ c :: rest) :=
  .word [] word (by simp) hword.ne_nil hword.chars (by simpa using hc) (h.cons_blank hc)

theorem Spaced.concat_blank (hc : isBlank c = true) (h : Spaced ws cs) :
    Spaced ws (cs ++ [c]) := by
  induction h with
  | blanks blanks hblanks =>
    exact .blanks _ (List.forall_mem_append.2 ⟨hblanks, List.forall_mem_singleton.2 hc⟩)
  | @word blanks word rest ws hblanks hne hword hrest _ ih =>
    have hend : ∀ x ∈ (rest ++ [c]).head?, isBlank x = true := by
      rcases rest with _ | ⟨d, rest⟩
      · simpa using hc
      · exact hrest
    rw [List.append_assoc, List.append_assoc]
    exact .word blanks word hblanks hne hword hend ih

theorem words_concat_of_isBlank (hc : isBlank c = true) : words (cs ++ [c]) = words cs :=
  words_eq_iff.2 ((words_eq_iff.1 rfl).concat_blank hc)

theorem words_trimEnd : words (trimEnd cs) = words cs := by
  unfold trimEnd
  induction cs using List.reverseRecOn with
  | nil => rfl
  | append_singleton cs c ih =>
    rw [List.reverse_append, List.reverse_singleton, List.singleton_append]
    by_cases hc : isBlank c = true
    · rw [List.dropWhile_cons_of_pos hc, ih, words_concat_of_isBlank hc]
    · rw [List.dropWhile_cons_of_neg hc, List.reverse_cons, List.reverse_reverse]

end MeshTestbed.Text
