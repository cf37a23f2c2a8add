import Mathlib.Data.List.Perm.Basic
import MeshTestbed.Proofs.Pods.Reading

namespace MeshTestbed

namespace Pod

variable {p : Pod} {expected : Option UInt32}

/-- The pod of the row has completed, or it runs and all its containers are ready, as many as
expected. -/
def Row.IsReady (row : Row) (expected : Option UInt32) : Prop :=
  row.status = "Completed" ∨ row.status = "Succeeded" ∨
    row.status = "Running" ∧ row.ready = row.total ∧ 0 < row.total ∧
      ∀ n, expected = some n → row.total = n.toNat

theorem isReady_row_iff :
    p.row.IsReady expected ↔
      (p.hasCompleted || (p.isReady && expected.all fun n => p.total == n)) = true := by
  have hcompleted : p.hasCompleted = true ↔ p.status = "Completed" ∨ p.status = "Succeeded" := by
    simp [hasCompleted]
  have hready : p.isReady = true ↔
      p.status = "Running" ∧ p.ready.toNat = p.total.toNat ∧ 0 < p.total.toNat := by
    rw [and_comm (a := p.ready.toNat = p.total.toNat)]
    simp [isReady, UInt32.lt_iff_toNat_lt, UInt32.toNat_inj, and_assoc]
  have hexpected : expected.all (fun n => p.total == n) = true ↔
      ∀ n, expected = some n → p.total.toNat = n.toNat := by
    cases expected <;> simp [UInt32.toNat_inj]
  rw [Bool.or_eq_true, Bool.and_eq_true, hcompleted, hready, hexpected, Row.IsReady, row]
  simp only [or_assoc, and_assoc]

end Pod

namespace Pods

/-- Lines that show the same rows: in another order, with or without headers and lines that are no
rows, with other columns behind the third, and with other blanks between columns. -/
inductive SameRows : List (List Char) → List (List Char) → Prop where
  | reordered {ls ls' : List (List Char)} (h : ls.Perm ls') : SameRows ls ls'
  | header (before after : List (List Char)) {further : List (List Char)} {line : List Char}
      (h : Text.Spaced ("NAME".toList :: further) line) :
      SameRows (before ++ after) (before ++ line :: after)
  | unread (before after : List (List Char)) {line : List Char}
      (h : ¬ ∃ row : Pod.Row, row.StandsIn line) :
      SameRows (before ++ after) (before ++ line :: after)
  | columns (before after : List (List Char)) {further further' : List (List Char)}
      {line line' first second third : List Char}
      (h : Text.Spaced (first :: second :: third :: further) line)
      (h' : Text.Spaced (first :: second :: third :: further') line') :
      SameRows (before ++ line :: after) (before ++ line' :: after)
  | blanks (before after : List (List Char)) {columns : List (List Char)} {line line' : List Char}
      (h : Text.Spaced columns line) (h' : Text.Spaced columns line') :
      SameRows (before ++ line :: after) (before ++ line' :: after)
  | symm {ls ls' : List (List Char)} (h : SameRows ls ls') : SameRows ls' ls
  | trans {ls ls' ls'' : List (List Char)} (h : SameRows ls ls') (h' : SameRows ls' ls'') :
      SameRows ls ls''

variable {ls ls' : List (List Char)} {raw raw' : String} {pods pods' : Pods}
  {expected : Option UInt32}

theorem SameRows.perm_pods (h : SameRows ls ls') :
    (ls.filterMap Pod.ofLine?).Perm (ls'.filterMap Pod.ofLine?) := by
  have hadded {before after : List (List Char)} {line : List Char}
      (hline : Pod.ofLine? line = none) :
      ((before ++ after).filterMap Pod.ofLine?).Perm
        ((before ++ line :: after).filterMap Pod.ofLine?) := by
    rw [List.filterMap_append, List.filterMap_append, List.filterMap_cons_none hline]
  have hreplaced {before after : List (List Char)} {line line' : List Char}
      (hline : Pod.ofLine? line = Pod.ofLine? line') :
      ((before ++ line :: after).filterMap Pod.ofLine?).Perm
        ((before ++ line' :: after).filterMap Pod.ofLine?) := by
    simp only [List.filterMap_append, List.filterMap_cons, hline, List.Perm.refl]
  induction h with
  | reordered h => exact h.filterMap _
  | header _ _ h => exact hadded (Pod.ofLine_header h)
  | unread _ _ h => exact hadded (Pod.ofLine_eq_none_iff.2 h)
  | columns _ _ h h' => exact hreplaced (Pod.ofLine_columns h h')
  | blanks _ _ h h' => exact hreplaced (Pod.ofLine_blanks h h')
  | symm _ ih => exact ih.symm
  | trans _ _ ih ih' => exact ih.trans ih'

theorem ofTable_perm (h : SameRows (Text.lines raw.toList) (Text.lines raw'.toList)) :
    (ofTable raw).Perm (ofTable raw') :=
  h.perm_pods

theorem isReady_perm (h : pods.Perm pods') : pods.isReady expected = pods'.isReady expected := by
  rw [isReady, isReady, h.all_eq, List.Perm.isEmpty_eq h]

theorem areQuiet_perm (h : pods.Perm pods') : pods.areQuiet = pods'.areQuiet := by
  rw [areQuiet, areQuiet, h.any_eq]

theorem areSettled_perm (h : pods.Perm pods') : pods.areSettled = pods'.areSettled := by
  rw [areSettled, areSettled, areQuiet_perm h, List.Perm.isEmpty_eq h]

theorem forall_row_iff (good : Pod.Row → Prop) : (∀ p ∈ ofTable raw, good p.row) ↔
    ∀ line ∈ Text.lines raw.toList, ∀ row : Pod.Row, row.StandsIn line → good row := by
  constructor
  · intro hgood line hline row hrow
    obtain ⟨p, rfl⟩ := Pod.exists_row_eq hrow
    exact hgood p (List.mem_filterMap.2 ⟨line, hline, Pod.ofLine_eq_some_iff.2 hrow⟩)
  · intro hgood p hp
    obtain ⟨line, hline, hread⟩ := List.mem_filterMap.1 hp
    exact hgood line hline p.row (Pod.ofLine_eq_some_iff.1 hread)

theorem ofTable_ne_nil_iff : ofTable raw ≠ [] ↔
    ∃ line ∈ Text.lines raw.toList, ∃ row : Pod.Row, row.StandsIn line := by
  have hempty : ofTable raw = [] ↔ ∀ p ∈ ofTable raw, False := List.eq_nil_iff_forall_not_mem
  rw [Ne, hempty, forall_row_iff fun _ => False]
  simp only [imp_false, not_forall, not_not, exists_prop]

/-- A table is ready if and only if one of its lines is a row and each row has completed or runs
with all its containers. Lines that show the same rows have the same verdicts. -/
theorem verdicts_of_rows (raw : String) :
    (∀ expected, (ofTable raw).isReady expected = true ↔
      (∃ line ∈ Text.lines raw.toList, ∃ row : Pod.Row, row.StandsIn line) ∧
        ∀ line ∈ Text.lines raw.toList, ∀ row : Pod.Row, row.StandsIn line →
          row.IsReady expected) ∧
      ∀ raw', SameRows (Text.lines raw.toList) (Text.lines raw'.toList) →
        (∀ expected, (ofTable raw).isReady expected = (ofTable raw').isReady expected) ∧
          (ofTable raw).areSettled = (ofTable raw').areSettled ∧
          (ofTable raw).areQuiet = (ofTable raw').areQuiet := by
  refine ⟨fun expected => ?_, fun raw' h => ?_⟩
  · rw [← ofTable_ne_nil_iff, ← forall_row_iff fun row => row.IsReady expected]
    simp only [isReady, Bool.and_eq_true, List.all_eq_true, Pod.isReady_row_iff]
    simp
  · have hpods := ofTable_perm h
    exact ⟨fun expected => isReady_perm hpods, areSettled_perm hpods, areQuiet_perm hpods⟩

/-- Without its header, in another order, with tabs and an age, a table has the same verdicts. -/
theorem verdicts_of_rows_of_relaid :
    (ofTable "NAME READY STATUS\nweb 2/2 Running\njob 0/1 Completed\n").isReady (some 2) =
      (ofTable "  job 0/1\tCompleted\r\nweb 2/2 Running 3d").isReady (some 2) := by
  have hheader : Text.words "NAME READY STATUS".toList =
      ["NAME".toList, "READY".toList, "STATUS".toList] := by decide +kernel
  have hweb : Text.words "web 2/2 Running".toList =
      ["web".toList, "2/2".toList, "Running".toList] := by decide +kernel
  have hweb' : Text.words "web 2/2 Running 3d".toList =
      ["web".toList, "2/2".toList, "Running".toList, "3d".toList] := by decide +kernel
  have hjob : Text.words "job 0/1 Completed".toList =
      ["job".toList, "0/1".toList, "Completed".toList] := by decide +kernel
  have hjob' : Text.words "  job 0/1\tCompleted".toList =
      ["job".toList, "0/1".toList, "Completed".toList] := by decide +kernel
  have hlines : Text.lines "NAME READY STATUS\nweb 2/2 Running\njob 0/1 Completed\n".toList =
      ["NAME READY STATUS".toList, "web 2/2 Running".toList, "job 0/1 Completed".toList] := by
    decide +kernel
  have hlines' : Text.lines "  job 0/1\tCompleted\r\nweb 2/2 Running 3d".toList =
      ["  job 0/1\tCompleted".toList, "web 2/2 Running 3d".toList] := by
    decide +kernel
  have hsame : SameRows
      ["NAME READY STATUS".toList, "web 2/2 Running".toList, "job 0/1 Completed".toList]
      ["  job 0/1\tCompleted".toList, "web 2/2 Running 3d".toList] :=
    .trans (.symm (.header [] _ (Text.words_eq_iff.1 hheader)))
      (.trans (.columns [] _ (Text.words_eq_iff.1 hweb) (Text.words_eq_iff.1 hweb'))
        (.trans (.blanks [_] [] (Text.words_eq_iff.1 hjob) (Text.words_eq_iff.1 hjob'))
          (.reordered (List.Perm.swap _ _ []))))
  rw [← hlines, ← hlines'] at hsame
  exact ((verdicts_of_rows _).2 _ hsame).1 (some 2)

end Pods

end MeshTestbed
