import Mathlib.Data.List.Infix
import Mathlib.Data.List.TakeWhile
import MeshTestbed.Text.Blank
import MeshTestbed.Text.Search

namespace MeshTestbed.Text

variable {pat cs : List Char} {c : Char}

theorem occurs_iff_isInfix : occurs pat cs = true ↔ pat <:+: cs := by
  induction cs with
  | nil => simp [occurs]
  | cons c cs ih => simp [occurs, ih, List.infix_cons_iff]

theorem isInfix_dropWhile {p : Char → Bool} (hc : p c = false) (h : c :: pat <:+: cs) :
    c :: pat <:+: cs.dropWhile p := by
  induction cs with
  | nil => simp at h
  | cons d cs ih =>
    rcases List.infix_cons_iff.1 h with hfront | hinside
    · obtain ⟨rfl, -⟩ := List.cons_prefix_cons.1 hfront
      rw [List.dropWhile_cons_of_neg (by simp [hc])]
      exact hfront.isInfix
    · by_cases hd : p d = true
      · rw [List.dropWhile_cons_of_pos hd]
        exact ih hinside
      · rw [List.dropWhile_cons_of_neg hd]
        exact h

/-- A text with no blank at either end. -/
structure IsTight (pat : List Char) : Prop where
  head : ∃ c rest, pat = c :: rest ∧ isBlank c = false
  last : ∃ c rest, pat.reverse = c :: rest ∧ isBlank c = false

theorem isInfix_trim (htight : IsTight pat) (h : pat <:+: cs) : pat <:+: trim cs := by
  obtain ⟨first, rest, hpat, hfirst⟩ := htight.head
  obtain ⟨last, rest', hreverse, hlast⟩ := htight.last
  have hstart : pat <:+: trimStart cs := by
    rw [hpat] at h ⊢
    exact isInfix_dropWhile hfirst h
  have hbackward : pat.reverse <:+: (trimStart cs).reverse.dropWhile isBlank := by
    rw [hreverse]
    exact isInfix_dropWhile hlast (hreverse ▸ List.reverse_infix.2 hstart)
  rw [trim, trimEnd, ← List.reverse_infix, List.reverse_reverse]
  exact hbackward

theorem trim_isInfix : trim cs <:+: cs := by
  have hend : trim cs <+: trimStart cs := by
    rw [trim, trimEnd, ← List.reverse_suffix, List.reverse_reverse]
    exact List.dropWhile_suffix _
  exact hend.isInfix.trans (List.dropWhile_suffix _).isInfix

theorem contains_trimmed {s pat : String} (htight : IsTight pat.toList) :
    contains (trimmed s) pat = contains s pat := by
  unfold contains trimmed
  rw [String.toList_ofList, Bool.eq_iff_iff, occurs_iff_isInfix, occurs_iff_isInfix]
  exact ⟨fun h => h.trans trim_isInfix, fun h => isInfix_trim htight h⟩

theorem trim_eq_nil_iff : trim cs = [] ↔ ∀ c ∈ cs, isBlank c = true := by
  rw [trim, trimEnd, List.reverse_eq_nil_iff, List.dropWhile_eq_nil_iff]
  constructor
  · intro hend c hc
    rw [← List.takeWhile_append_dropWhile (p := isBlank) (l := cs), List.mem_append] at hc
    rcases hc with hc | hc
    · exact List.mem_takeWhile_imp hc
    · exact hend c (List.mem_reverse.2 hc)
  · intro hblank c hc
    exact hblank c ((List.dropWhile_suffix _).mem (List.mem_reverse.1 hc))

theorem trimmed_eq_empty_iff {s : String} : trimmed s = "" ↔ isBlankText s = true := by
  rw [trimmed, String.ofList_eq_empty_iff, trim_eq_nil_iff, isBlankText, List.all_eq_true]

variable {mark xs ys : List Char}

/-- A mark whose first character is not in it again has no part in common with what stands before
it. So a text is parted at the mark if the first part has no whole one. -/
theorem splitFirst_append (hc : c ∉ mark) (h : ¬ c :: mark <:+: xs) :
    splitFirst (c :: mark) (xs ++ c :: (mark ++ ys)) = some (xs, ys) := by
  induction xs with
  | nil => simp [splitFirst]
  | cons d xs ih =>
    have hxs : ¬ c :: mark <:+: xs := fun hinside =>
      h (hinside.trans (List.suffix_cons d xs).isInfix)
    have hhere : ¬ c :: mark <+: d :: (xs ++ c :: (mark ++ ys)) := by
      intro hfront
      obtain ⟨rfl, rest, hrest⟩ := List.cons_prefix_cons.1 hfront
      rcases List.append_eq_append_iff.1 hrest with ⟨behind, hbehind, -⟩ | ⟨excess, hexcess, hmark⟩
      · exact h ⟨[], behind, by simp [hbehind]⟩
      · -- The mark would reach into the one behind, so it had its first character twice.
        rcases excess with _ | ⟨x, excess⟩
        · exact h ⟨[], [], by simp [hexcess]⟩
        · obtain ⟨rfl, -⟩ := List.cons_eq_cons.1 hmark
          exact hc (by simp [hexcess])
    simp [splitFirst, hhere, ih hxs]

theorem splitFirst_eq_none (h : splitFirst mark cs = none) : ¬ mark <:+: cs := by
  induction cs with
  | nil => simpa [splitFirst] using h
  | cons d cs ih =>
    rw [splitFirst] at h
    split at h
    · cases h
    · next hhere =>
      rw [List.infix_cons_iff, not_or]
      exact ⟨by simpa using hhere, ih (Option.map_eq_none_iff.1 h)⟩

theorem splitFirst_eq_some (h : splitFirst mark cs = some (xs, ys)) :
    cs = xs ++ (mark ++ ys) ∧ (mark ≠ [] → ¬ mark <:+: xs) := by
  induction cs generalizing xs with
  | nil =>
    rw [splitFirst] at h
    split at h
    · next hempty =>
      obtain rfl : mark = [] := List.isEmpty_iff.1 hempty
      obtain ⟨rfl, rfl⟩ : [] = xs ∧ [] = ys := by simpa using h
      exact ⟨rfl, fun hmark => absurd rfl hmark⟩
    · cases h
  | cons d cs ih =>
    rw [splitFirst] at h
    split at h
    · next hhere =>
      obtain ⟨rest, hrest⟩ := List.isPrefixOf_iff_prefix.1 hhere
      obtain ⟨rfl, rfl⟩ : [] = xs ∧ rest = ys := by simpa [← hrest] using h
      exact ⟨hrest.symm, fun hmark hinside => hmark (List.infix_nil.1 hinside)⟩
    · next hhere =>
      obtain ⟨⟨init, rest⟩, hparts, hxs⟩ := Option.map_eq_some_iff.1 h
      obtain ⟨rfl, rfl⟩ : d :: init = xs ∧ rest = ys := by simpa using hxs
      obtain ⟨rfl, hfirst⟩ := ih hparts
      refine ⟨rfl, fun hmark hinside => ?_⟩
      rcases List.infix_cons_iff.1 hinside with hfront | hlater
      · exact hhere (List.isPrefixOf_iff_prefix.2 (hfront.trans (List.prefix_append (d :: init) _)))
      · exact hfirst hmark hlater

theorem splitFirst_singleton (cs : List Char) (c : Char) :
    splitFirst [c] cs = none ∧ c ∉ cs ∨
      ∃ xs ys, splitFirst [c] cs = some (xs, ys) ∧ cs = xs ++ c :: ys ∧ c ∉ xs := by
  rcases h : splitFirst [c] cs with _ | ⟨xs, ys⟩
  · exact .inl ⟨rfl, fun hmem => splitFirst_eq_none h ((List.singleton_infix_iff c cs).2 hmem)⟩
  · obtain ⟨hcs, hxs⟩ := splitFirst_eq_some h
    refine .inr ⟨xs, ys, rfl, hcs, fun hmem => ?_⟩
    exact hxs (List.cons_ne_nil _ _) ((List.singleton_infix_iff c xs).2 hmem)

end MeshTestbed.Text
