import MeshTestbed.Text.Blank
import MeshTestbed.Text.Number

namespace MeshTestbed.Text

variable {n : Nat} {c : Char} {cs rest : List Char}

theorem isBlank_of_isDigit (h : isDigit c = true) : isBlank c = false := by
  have hrange : 48 ≤ c.toNat ∧ c.toNat ≤ 57 := by
    simpa [isDigit, Char.le_def, UInt32.le_iff_toNat_le] using h
  simp only [isBlank, Bool.or_eq_false_iff, Bool.and_eq_false_iff, decide_eq_false_iff_not,
    beq_eq_false_iff_ne]
  omega

theorem isDigit_of_mem_digitsOfNat (h : c ∈ digitsOfNat n) : isDigit c = true :=
  Nat.isDigit_of_mem_toDigits (by decide) (by decide) h

theorem digitsOfNat_ne_nil : digitsOfNat n ≠ [] := Nat.toDigits_ne_nil

theorem natOfDigits_digitsOfNat : natOfDigits (digitsOfNat n) = some n := by
  have hdigits : (digitsOfNat n).all isDigit = true :=
    List.all_eq_true.2 fun c hc => isDigit_of_mem_digitsOfNat hc
  rw [natOfDigits, if_pos ⟨digitsOfNat_ne_nil, hdigits⟩]
  exact congrArg some (Nat.ofDigitChars_toDigits (by decide) (by decide))

theorem head_digitsOfNat (hn : 0 < n) : (digitsOfNat n).head? ≠ some '0' := by
  induction n using Nat.strongRecOn with
  | ind n ih =>
    unfold digitsOfNat
    by_cases hlt : n < 10
    · rw [Nat.toDigits_of_lt_base hlt]
      have hdigit : ∀ d < 10, 0 < d → Nat.digitChar d ≠ '0' := by decide
      simpa using hdigit n hlt hn
    · have hhead := ih (n / 10) (by omega) (by omega)
      rw [Nat.toDigits_of_base_le (by decide) (by omega), List.head?_append]
      rcases hdigits : (Nat.toDigits 10 (n / 10)).head? with _ | d
      · exact absurd (List.head?_eq_none_iff.1 hdigits) Nat.toDigits_ne_nil
      · rw [digitsOfNat, hdigits] at hhead
        exact hhead

/-- A zero stands in front of no other digit. -/
theorem digitsOfNat_plain : (digitsOfNat n).length = 1 ∨ (digitsOfNat n).head? ≠ some '0' := by
  rcases Nat.eq_zero_or_pos n with rfl | hn
  · exact .inl rfl
  · exact .inr (head_digitsOfNat hn)

theorem takeWhile_digitsOfNat (hrest : ∀ c ∈ rest.head?, isDigit c = false) :
    (digitsOfNat n ++ rest).takeWhile isDigit = digitsOfNat n := by
  rw [List.takeWhile_append_of_pos fun c hc => isDigit_of_mem_digitsOfNat hc]
  rcases rest with _ | ⟨c, rest⟩
  · rw [List.takeWhile_nil, List.append_nil]
  · rw [List.takeWhile_cons_of_neg (by simp [hrest c rfl]), List.append_nil]

end MeshTestbed.Text
