import MeshTestbed.Pods
import MeshTestbed.Proofs.Text.Words

namespace MeshTestbed

namespace Pod

variable {p : Pod} {m n : UInt32} {column digits line : List Char}

theorem count_eq_some_iff : count? digits = some m ↔ Text.natOfDigits digits = some m.toNat := by
  unfold count? Text.natBelow
  rw [Option.map_eq_some_iff]
  constructor
  · rintro ⟨n, hn, rfl⟩
    obtain ⟨hspelled, hbound⟩ := Option.filter_eq_some_iff.1 hn
    rw [hspelled, UInt32.toNat_ofNat_of_lt' (by simpa using hbound)]
  · intro hspelled
    refine ⟨m.toNat, Option.filter_eq_some_iff.2 ⟨hspelled, ?_⟩, UInt32.ofNat_toNat⟩
    simpa using m.toNat_lt_size

theorem digits_of_natOfDigits {n : Nat} (h : Text.natOfDigits digits = some n) :
    ∀ c ∈ digits, Text.isDigit c = true := by
  unfold Text.natOfDigits at h
  split at h
  · next hdigits => exact List.all_eq_true.1 hdigits.2
  · cases h

theorem counts_eq_some_iff : counts? column = some (m, n) ↔
    ∃ ready total, column = ready ++ '/' :: total ∧ Text.natOfDigits ready = some m.toNat ∧
      Text.natOfDigits total = some n.toNat := by
  unfold counts?
  constructor
  · intro h
    obtain ⟨ready, hready, h⟩ := Option.bind_eq_some_iff.1 h
    split at h
    · next total hdrop =>
      obtain ⟨total', htotal, h⟩ := Option.bind_eq_some_iff.1 h
      obtain ⟨rfl, rfl⟩ : ready = m ∧ total' = n := by simpa using h
      have hcolumn := List.takeWhile_append_dropWhile (p := (· ≠ '/')) (l := column)
      rw [hdrop] at hcolumn
      exact ⟨_, _, hcolumn.symm, count_eq_some_iff.1 hready, count_eq_some_iff.1 htotal⟩
    · cases h
  · rintro ⟨ready, total, rfl, hready, htotal⟩
    have hbefore : ∀ c ∈ ready, decide (c ≠ '/') = true := by
      intro c hc
      have hdigit := digits_of_natOfDigits hready c hc
      by_contra hslash
      obtain rfl : c = '/' := by simpa using hslash
      exact absurd hdigit (by decide)
    have htake : (ready ++ '/' :: total).takeWhile (· ≠ '/') = ready := by
      rw [List.takeWhile_append_of_pos hbefore, List.takeWhile_cons_of_neg (by decide),
        List.append_nil]
    have hdrop : (ready ++ '/' :: total).dropWhile (· ≠ '/') = '/' :: total := by
      rw [List.dropWhile_append_of_pos hbefore, List.dropWhile_cons_of_neg (by decide)]
    rw [htake, hdrop, count_eq_some_iff.2 hready]
    simp [count_eq_some_iff.2 htotal]

/-- A row as it is printed, with counts as numbers. -/
structure Row where
  name : String
  ready : Nat
  total : Nat
  status : String

/-- The first three columns of the line are those of the row: a name other than the header's, two
numbers in ASCII digits with a slash between them, both below `2 ^ 32`, and a status. -/
def Row.StandsIn (row : Row) (line : List Char) : Prop :=
  ∃ ready total further,
    Text.Spaced (row.name.toList :: (ready ++ '/' :: total) :: row.status.toList :: further) line ∧
      row.name ≠ "NAME" ∧ Text.natOfDigits ready = some row.ready ∧
      Text.natOfDigits total = some row.total ∧ row.ready < UInt32.size ∧
      row.total < UInt32.size

def row (p : Pod) : Row := ⟨p.name, p.ready.toNat, p.total.toNat, p.status⟩

theorem ofLine_eq_some_iff : ofLine? line = some p ↔ p.row.StandsIn line := by
  unfold ofLine?
  constructor
  · intro h
    split at h
    · next name column status further hwords =>
      split at h
      · cases h
      · next hheader =>
        obtain ⟨⟨m, n⟩, hcounts, rfl⟩ := Option.map_eq_some_iff.1 h
        obtain ⟨ready, total, rfl, hready, htotal⟩ := counts_eq_some_iff.1 hcounts
        refine ⟨ready, total, further, ?_, ?_, hready, htotal, m.toNat_lt_size, n.toNat_lt_size⟩
        · rw [row, String.toList_ofList, String.toList_ofList]
          exact Text.words_eq_iff.1 hwords
        · intro hname
          exact hheader (by rw [← hname, row, String.toList_ofList])
    · cases h
  · rintro ⟨ready, total, further, hspaced, hname, hready, htotal, -⟩
    have hheader : p.name.toList ≠ "NAME".toList := fun h => hname (String.toList_inj.1 h)
    have hcounts : counts? (ready ++ '/' :: total) = some (p.ready, p.total) :=
      counts_eq_some_iff.2 ⟨ready, total, rfl, hready, htotal⟩
    rw [hspaced.words_eq]
    simp only [row, if_neg hheader, hcounts, Option.map_some, String.ofList_toList]

theorem exists_row_eq {row : Row} (h : row.StandsIn line) : ∃ p : Pod, p.row = row := by
  obtain ⟨_, _, _, _, _, _, _, hready, htotal⟩ := h
  have hcount {n : Nat} (hn : n < UInt32.size) : (UInt32.ofNat n).toNat = n :=
    UInt32.toNat_ofNat_of_lt' hn
  refine ⟨⟨row.name, .ofNat row.ready, .ofNat row.total, row.status⟩, ?_⟩
  rw [Pod.row, hcount hready, hcount htotal]

theorem ofLine_eq_none_iff : ofLine? line = none ↔ ¬ ∃ row : Row, row.StandsIn line := by
  rw [Option.eq_none_iff_forall_ne_some]
  constructor
  · rintro h ⟨row, hrow⟩
    obtain ⟨p, rfl⟩ := exists_row_eq hrow
    exact h p (ofLine_eq_some_iff.2 hrow)
  · intro h p hp
    exact h ⟨p.row, ofLine_eq_some_iff.1 hp⟩

variable {line' first second third : List Char} {columns further further' : List (List Char)}

theorem ofLine_header (h : Text.Spaced ("NAME".toList :: further) line) : ofLine? line = none := by
  unfold ofLine?
  rw [h.words_eq]
  rcases further with _ | ⟨second, _ | ⟨third, further⟩⟩ <;> rfl

/-- Columns behind the third are not read. -/
theorem ofLine_columns (h : Text.Spaced (first :: second :: third :: further) line)
    (h' : Text.Spaced (first :: second :: third :: further') line') :
    ofLine? line = ofLine? line' := by
  unfold ofLine?
  rw [h.words_eq, h'.words_eq]

theorem ofLine_blanks (h : Text.Spaced columns line) (h' : Text.Spaced columns line') :
    ofLine? line = ofLine? line' := by
  unfold ofLine?
  rw [h.words_eq, h'.words_eq]

end Pod

end MeshTestbed
