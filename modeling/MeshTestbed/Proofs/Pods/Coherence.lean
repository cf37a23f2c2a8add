import MeshTestbed.Proofs.Pods.Reading
import MeshTestbed.Proofs.Text.Number

namespace MeshTestbed

namespace Pod

variable {p : Pod} {line : List Char}

theorem isStarting_of_hasCompleted (h : p.hasCompleted = true) : p.isStarting = false := by
  have hstatus : p.status = "Completed" ∨ p.status = "Succeeded" := by
    simpa [hasCompleted] using h
  unfold isStarting
  rcases hstatus with hstatus | hstatus <;> rw [hstatus] <;> decide

theorem isStarting_of_isReady (h : p.isReady = true) : p.isStarting = false := by
  have hstatus : p.status = "Running" := by
    simp only [isReady, Bool.and_eq_true, beq_iff_eq] at h
    exact h.1.1
  unfold isStarting
  rw [hstatus]
  decide

/-- The columns of the pod can be told apart in a line, and the line is not the header. -/
structure IsLegible (p : Pod) : Prop where
  name : Text.IsWord p.name.toList
  status : Text.IsWord p.status.toList
  name_ne : p.name ≠ "NAME"

theorem isLegible_of_ofLine (h : ofLine? line = some p) : p.IsLegible := by
  obtain ⟨ready, total, further, hspaced, hname, -⟩ := ofLine_eq_some_iff.1 h
  exact ⟨hspaced.isWord _ (by simp [row]), hspaced.isWord _ (by simp [row]), hname⟩

def counts (p : Pod) : List Char :=
  Text.digitsOfNat p.ready.toNat ++ '/' :: Text.digitsOfNat p.total.toNat

theorem isWord_counts : Text.IsWord p.counts where
  ne_nil := by simp [counts]
  chars c hc := by
    rcases List.mem_append.1 hc with hready | hrest
    · exact Text.isBlank_of_isDigit (Text.isDigit_of_mem_digitsOfNat hready)
    · rcases List.mem_cons.1 hrest with rfl | htotal
      · decide
      · exact Text.isBlank_of_isDigit (Text.isDigit_of_mem_digitsOfNat htotal)

theorem toList_render :
    p.render.toList = p.name.toList ++ ' ' :: (p.counts ++ ' ' :: p.status.toList) := by
  have hblank : " ".toList = [' '] := rfl
  have hslash : "/".toList = ['/'] := rfl
  simp [render, counts, Text.ofNat, hblank, hslash]

theorem spaced_render (h : p.IsLegible) :
    Text.Spaced [p.name.toList, p.counts, p.status.toList] p.render.toList := by
  rw [toList_render]
  exact .cons_word h.name (by decide) (.cons_word isWord_counts (by decide) h.status.spaced)

theorem ofLine_render (h : p.IsLegible) : ofLine? p.render.toList = some p :=
  ofLine_eq_some_iff.2 ⟨_, _, [], spaced_render h, h.name_ne, Text.natOfDigits_digitsOfNat,
    Text.natOfDigits_digitsOfNat, p.ready.toNat_lt_size, p.total.toNat_lt_size⟩

theorem newline_not_mem_render (h : p.IsLegible) : '\n' ∉ p.render.toList := by
  have hnewline : Text.isBlank '\n' = true := by decide
  rw [toList_render]
  simp [h.name.not_mem hnewline, isWord_counts.not_mem hnewline, h.status.not_mem hnewline]

theorem skipsBlanks_ofLine : Text.SkipsBlanks ofLine? where
  nil := rfl
  cons c line hc := by
    unfold ofLine?
    rw [Text.words_cons_of_isBlank hc]
  concat c line hc := by
    unfold ofLine?
    rw [Text.words_concat_of_isBlank hc]

end Pod

namespace Pods

variable {pods : Pods} {raw : String} {n : UInt32}

theorem isReady_none_iff : pods.isReady none = true ↔
    pods ≠ [] ∧ ∀ p ∈ pods, p.hasCompleted = true ∨ p.isReady = true := by
  simp [isReady]

/-- What is asked of the number of containers is asked beside all else. -/
theorem isReady_none_of_some (h : pods.isReady (some n) = true) : pods.isReady none = true := by
  have hparts : pods ≠ [] ∧
      ∀ p ∈ pods, p.hasCompleted = true ∨ p.isReady = true ∧ p.total = n := by
    simpa [isReady] using h
  exact isReady_none_iff.2 ⟨hparts.1, fun p hp => (hparts.2 p hp).imp_right And.left⟩

theorem areSettled_of_isReady (h : pods.isReady none = true) : pods.areSettled = true := by
  obtain ⟨hne, hpods⟩ := isReady_none_iff.1 h
  have hquiet : ∀ p ∈ pods, p.isStarting = false := fun p hp =>
    (hpods p hp).elim Pod.isStarting_of_hasCompleted Pod.isStarting_of_isReady
  simpa [areSettled, areQuiet, hne] using hquiet

theorem areQuiet_of_areSettled (h : pods.areSettled = true) : pods.areQuiet = true :=
  (Bool.and_eq_true_iff.1 h).2

theorem isReady_none_iff_unreadyLines :
    pods.isReady none = true ↔ pods ≠ [] ∧ pods.unreadyLines = [] := by
  rw [isReady_none_iff, unreadyLines, unready, List.map_eq_nil_iff, List.filter_eq_nil_iff]
  refine and_congr_right fun _ => forall₂_congr fun p _ => ?_
  rw [Bool.and_eq_true, Bool.not_eq_true', Bool.not_eq_true', not_and_or, Bool.not_eq_false,
    Bool.not_eq_false, or_comm]

theorem ofTable_eq_readLines : ofTable raw = Text.readLines Pod.ofLine? [] raw.toList :=
  Text.filterMap_lines Pod.skipsBlanks_ofLine.nil Pod.skipsBlanks_ofLine.skipsReturn

theorem isLegible_of_mem_ofTable {p : Pod} (h : p ∈ ofTable raw) : p.IsLegible := by
  obtain ⟨line, -, hline⟩ := List.mem_filterMap.1 h
  exact Pod.isLegible_of_ofLine hline

theorem ofTable_render (h : ∀ p ∈ pods, p.IsLegible) :
    ofTable (Text.joinWith "\n" (pods.map Pod.render)) = pods := by
  have hlines : ∀ l ∈ pods.map Pod.render, '\n' ∉ l.toList :=
    List.forall_mem_map.2 fun p hp => Pod.newline_not_mem_render (h p hp)
  rw [ofTable_eq_readLines, Text.readLines_joinWith Pod.skipsBlanks_ofLine.nil hlines]
  exact Text.filterMap_map_eq_self fun p hp => Pod.ofLine_render (h p hp)

/-- Of the verdicts on a table the stricter ones imply the others. A table is ready just if it has
pods and no line tells of an unready one, and these lines are a table of the unready pods. -/
theorem verdicts_cohere (raw : String) (n : UInt32) :
    ((ofTable raw).isReady (some n) = true → (ofTable raw).isReady none = true) ∧
      ((ofTable raw).isReady none = true → (ofTable raw).areSettled = true) ∧
      ((ofTable raw).areSettled = true → (ofTable raw).areQuiet = true) ∧
      ((ofTable raw).isReady none = true ↔
        ofTable raw ≠ [] ∧ (ofTable raw).unreadyLines = []) ∧
      ofTable (Text.joinWith "\n" (ofTable raw).unreadyLines) =
        (ofTable raw).filter fun p => !p.isReady && !p.hasCompleted := by
  refine ⟨isReady_none_of_some, areSettled_of_isReady, areQuiet_of_areSettled,
    isReady_none_iff_unreadyLines, ofTable_render fun p hp => ?_⟩
  exact isLegible_of_mem_ofTable (List.mem_of_mem_filter hp)

theorem verdicts_cohere_of_web :
    (ofTable "web 2/2 Running 0 3d").areSettled = true ∧
      (ofTable "web 2/2 Running\ndb 0/1 Error").isReady none = false ∧
      ofTable (Text.joinWith "\n" (ofTable "web 2/2 Running\ndb 0/1 Error").unreadyLines) =
        [⟨"db", 0, 1, "Error"⟩] := by
  have hweb : (ofTable "web 2/2 Running 0 3d").isReady (some 2) = true := by decide +kernel
  obtain ⟨hany, hsettled, -⟩ := verdicts_cohere "web 2/2 Running 0 3d" 2
  obtain ⟨-, -, -, hready, hlines⟩ := verdicts_cohere "web 2/2 Running\ndb 0/1 Error" 2
  refine ⟨hsettled (hany hweb), Bool.eq_false_iff.2 fun h => ?_, hlines.trans (by decide +kernel)⟩
  exact absurd (hready.1 h).2 (by decide +kernel)

end Pods

end MeshTestbed
