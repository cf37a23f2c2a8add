import MeshTestbed.Proofs.Condition.Reading
import MeshTestbed.Proofs.Listing
import MeshTestbed.Proofs.Pods.Coherence
import MeshTestbed.Proofs.Sequence.Absence

namespace MeshTestbed

namespace Text

variable {β : Type} {read : List Char → Option β} {cs line : List Char} {s : String}

/-- The text with a carriage return before every line feed. -/
def withReturns (s : String) : String := String.ofList (replaceChar '\n' "\r\n".toList s.toList)

theorem readLines_replaceChar (hreturn : ∀ line, read (line ++ ['\r']) = read line) :
    readLines read line (replaceChar '\n' ['\r', '\n'] cs) = readLines read line cs := by
  induction cs generalizing line with
  | nil => rfl
  | cons c cs ih =>
    by_cases hc : c = '\n'
    · subst hc
      have hreplaced : replaceChar '\n' ['\r', '\n'] ('\n' :: cs) =
          '\r' :: '\n' :: replaceChar '\n' ['\r', '\n'] cs := rfl
      rw [hreplaced, readLines_cons (by decide), readLines_newline, readLines_newline, hreturn, ih]
    · have hkept : replaceChar '\n' ['\r', '\n'] (c :: cs) =
          c :: replaceChar '\n' ['\r', '\n'] cs := by
        simp [replaceChar, hc]
      rw [hkept, readLines_cons hc, readLines_cons hc, ih]

/-- A reading that does not see a carriage return at the end of a line sees none before a line
feed. -/
theorem filterMap_lines_withReturns (hnil : read [] = none)
    (hreturn : ∀ line, read (line ++ ['\r']) = read line) :
    (lines (withReturns s).toList).filterMap read = (lines s.toList).filterMap read := by
  have hreplaced : (withReturns s).toList = replaceChar '\n' ['\r', '\n'] s.toList :=
    String.toList_ofList
  rw [hreplaced, filterMap_lines hnil hreturn, filterMap_lines hnil hreturn,
    readLines_replaceChar hreturn]

end Text

variable {raw filter : String}

theorem Conditions.ofOutput_withReturns : ofOutput (Text.withReturns raw) = ofOutput raw := by
  rw [ofOutput, ofOutput, Condition.reports, Condition.reports,
    Text.filterMap_lines_withReturns Condition.skipsBlanks_ofLine.nil
      Condition.skipsBlanks_ofLine.skipsReturn]

theorem Conditions.ofOutput_trimmed : ofOutput (Text.trimmed raw) = ofOutput raw := by
  rw [ofOutput, ofOutput, Text.trimmed, String.toList_ofList, Condition.reports_trim]

theorem Pods.ofTable_withReturns : ofTable (Text.withReturns raw) = ofTable raw :=
  Text.filterMap_lines_withReturns Pod.skipsBlanks_ofLine.nil Pod.skipsBlanks_ofLine.skipsReturn

theorem Pods.ofTable_trimmed : ofTable (Text.trimmed raw) = ofTable raw := by
  rw [ofTable_eq_readLines, ofTable_eq_readLines, Text.trimmed, String.toList_ofList,
    Text.readLines_trim Pod.skipsBlanks_ofLine]

theorem PodListing.ofListing_withReturns : ofListing (Text.withReturns raw) = ofListing raw :=
  Text.filterMap_lines_withReturns rfl skipsReturn_ofLine

theorem packagesOfListing_withReturns :
    packagesOfListing (Text.withReturns raw) filter = packagesOfListing raw filter := by
  unfold packagesOfListing
  rw [List.filterMap_map, List.filterMap_map]
  refine Text.filterMap_lines_withReturns rfl fun line => ?_
  simp only [Function.comp_apply, Text.trim_concat_blank (by decide : Text.isBlank '\r' = true)]

/-- Whether the output, just as it was printed, has what the goal asks for. A query that failed
meets no goal but absence. -/
def Goal.isMetBy (goal : Goal) (o : Completion) : Bool :=
  if o.isOk then
    match goal with
    | condition demand => demand.isMet (Conditions.ofOutput o.stdout)
    | podsSettled allowEmpty =>
      if allowEmpty then (Pods.ofTable o.stdout).areQuiet else (Pods.ofTable o.stdout).areSettled
    | podsReady expected => (Pods.ofTable o.stdout).isReady expected
    | absent => o.listsNothing || Text.contains o.stderr nothingFound
  else goal = absent && o.saysGone

theorem Goal.judge_eq_isMetBy (goal : Goal) (o : Completion) :
    (goal.judge o).satisfied = goal.isMetBy o := by
  unfold isMetBy
  split
  · next hok =>
    cases goal with
    | condition demand => rw [judge, if_pos hok, judgeSuccess, Conditions.ofOutput_trimmed]
    | podsSettled allowEmpty => rw [judge, if_pos hok, judgeSuccess, Pods.ofTable_trimmed]
    | podsReady expected => rw [judge, if_pos hok, judgeSuccess, Pods.ofTable_trimmed]
    | absent => exact judge_absent_of_isOk hok
  · next hfailed =>
    rw [judge, if_neg hfailed, judgeFailure, containsAny_trimmed_goneMarks, Completion.saysGone]

/-- Conditions, pods, images and packages are read alike from a text and from the same text with a
carriage return before every line feed, and conditions and pods alike without the blanks around it.
So each goal is judged by what was printed. -/
theorem readings_ignore_layout (raw filter : String) :
    (Conditions.ofOutput (Text.withReturns raw) = Conditions.ofOutput raw ∧
      Pods.ofTable (Text.withReturns raw) = Pods.ofTable raw ∧
      PodListing.ofListing (Text.withReturns raw) = PodListing.ofListing raw ∧
      packagesOfListing (Text.withReturns raw) filter = packagesOfListing raw filter) ∧
    (Conditions.ofOutput (Text.trimmed raw) = Conditions.ofOutput raw ∧
      Pods.ofTable (Text.trimmed raw) = Pods.ofTable raw) ∧
    ∀ (goal : Goal) (stderr : String) (exitCode : Option Int32),
      (goal.judge ⟨raw, stderr, exitCode⟩).satisfied = goal.isMetBy ⟨raw, stderr, exitCode⟩ :=
  ⟨⟨Conditions.ofOutput_withReturns, Pods.ofTable_withReturns, PodListing.ofListing_withReturns,
      packagesOfListing_withReturns⟩,
    ⟨Conditions.ofOutput_trimmed, Pods.ofTable_trimmed⟩,
    fun goal _ _ => goal.judge_eq_isMetBy _⟩

/-- With images it is different: a line that begins with a tab lists no pod. -/
example : PodListing.ofListing "\tweb proxy:2.0|sha" = [] ∧
    PodListing.ofListing (Text.trimmed "\tweb proxy:2.0|sha") ≠ [] := by decide +kernel

end MeshTestbed
