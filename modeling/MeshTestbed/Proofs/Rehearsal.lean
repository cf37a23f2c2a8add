import Mathlib.Data.Fintype.Basic
import Mathlib.Data.Finset.Max
import Mathlib.Data.List.OfFn
import Mathlib.Data.Prod.Lex
import MeshTestbed.Proofs.Execution
import MeshTestbed.Rehearsal.Playbook

/-!
What is left of a playbook depends only on how many commands each of its entries has answered,
whatever came in between (`runner_after`). So the reply to a command is told by the commands
before it.
-/

namespace MeshTestbed

namespace Responses

variable {taken : Nat}

/-- What is left once so many responses have been taken. -/
def left (r : Responses) (taken : Nat) : Responses := (fun r => r.take.2)^[taken] r

theorem left_succ {r : Responses} : r.left (taken + 1) = (r.left taken).take.2 :=
  Function.iterate_succ_apply' _ taken r

theorem left_startupFailure : startupFailure.left taken = startupFailure :=
  Function.iterate_fixed rfl taken

theorem take_left_outputs {o : Completion} {later : List Completion} :
    ((outputs o later).left taken).take.1 = (o :: later)[min taken later.length]? := by
  induction taken generalizing o later with
  | zero => cases later <;> simp [left, take]
  | succ taken ih =>
    have hfirst : (outputs o later).left (taken + 1) = ((outputs o later).take.2).left taken :=
      Function.iterate_succ_apply _ taken _
    rw [hfirst]
    cases later with
    | nil => simpa [take] using @ih o []
    | cons next later =>
      rw [take, ih, List.length_cons, Nat.succ_min_succ, List.getElem?_cons_succ]

theorem eq_outputs_of_ofList {os : List Completion} {r : Responses} (h : ofList? os = some r) :
    ∃ o later, os = o :: later ∧ r = outputs o later := by
  cases os with
  | nil => cases h
  | cons o later => exact ⟨o, later, rfl, (Option.some.inj h).symm⟩

end Responses

namespace PlaybookEntry

variable {e : PlaybookEntry} {argv : Argv}

theorem accepts_iff : e.accepts argv = true ↔ e.tokens ⊆ argv := by
  simp [accepts, List.subset_def]

def left (e : PlaybookEntry) (answered : Nat) : PlaybookEntry :=
  { e with responses := e.responses.left answered }

@[simp] theorem tokens_left {answered : Nat} : (e.left answered).tokens = e.tokens := rfl

theorem left_succ {answered : Nat} : e.left (answered + 1) =
    { e.left answered with responses := (e.left answered).responses.take.2 } := by
  rw [left, Responses.left_succ]
  rfl

end PlaybookEntry

namespace Playbook

variable {book rest before behind : Playbook} {e : PlaybookEntry}
  {best : Option (Nat × PlaybookEntry)} {argv : Argv} {position : Nat} {c : Call}
  {calls : List Call}

theorem selectFrom_append : selectFrom argv position best (before ++ rest) =
    selectFrom argv (position + before.length) (selectFrom argv position best before) rest := by
  induction before generalizing position best with
  | nil => rfl
  | cons e before ih =>
    rw [List.cons_append, selectFrom, ih, selectFrom, List.length_cons, Nat.add_right_comm,
      Nat.add_assoc]

theorem selectFrom_of_not_betters (h : ∀ e ∈ rest, e.tokens ⊆ argv → betters e best = false) :
    selectFrom argv position best rest = best := by
  induction rest generalizing position with
  | nil => rfl
  | cons e rest ih =>
    obtain ⟨he, hrest⟩ := List.forall_mem_cons.1 h
    rw [selectFrom, if_neg, ih hrest]
    rw [Bool.and_eq_true, PlaybookEntry.accepts_iff]
    rintro ⟨haccepts, hbetters⟩
    exact absurd hbetters (by simp [he haccepts])

theorem betters_selectFrom (hbest : betters e best = true)
    (h : ∀ f ∈ before, f.tokens ⊆ argv → f.tokens.length ≤ e.tokens.length) :
    betters e (selectFrom argv position best before) = true := by
  induction before generalizing position best with
  | nil => exact hbest
  | cons f before ih =>
    obtain ⟨hf, hbefore⟩ := List.forall_mem_cons.1 h
    refine ih ?_ hbefore
    split
    · next hselected =>
      rw [Bool.and_eq_true, PlaybookEntry.accepts_iff] at hselected
      simpa [betters] using hf hselected.1
    · exact hbest

theorem select_eq_some (haccepts : e.tokens ⊆ argv)
    (hbefore : ∀ f ∈ before, f.tokens ⊆ argv → f.tokens.length ≤ e.tokens.length)
    (hbehind : ∀ f ∈ behind, f.tokens ⊆ argv → f.tokens.length < e.tokens.length) :
    select (before ++ e :: behind) argv = some (before.length, e) := by
  have hselected : (e.accepts argv && betters e (selectFrom argv 0 none before)) = true := by
    rw [Bool.and_eq_true, PlaybookEntry.accepts_iff]
    exact ⟨haccepts, betters_selectFrom rfl hbefore⟩
  rw [select, selectFrom_append, selectFrom, if_pos hselected, Nat.zero_add,
    selectFrom_of_not_betters]
  intro f hf hsubset
  simpa [betters] using hbehind f hf hsubset

theorem select_eq_none (h : ∀ e ∈ book, ¬ e.tokens ⊆ argv) : book.select argv = none :=
  selectFrom_of_not_betters fun e he hsubset => (h e he hsubset).elim

/-- Commands with these arguments are answered by the entry: its tokens are all among them, no such
entry has more tokens, and it is the last of those with as many. -/
structure Answers (book : Playbook) (i : Fin book.length) (argv : Argv) : Prop where
  ne_nil : argv ≠ []
  accepts : book[i].tokens ⊆ argv
  most : ∀ j : Fin book.length, book[j].tokens ⊆ argv →
    book[j].tokens.length ≤ book[i].tokens.length
  last : ∀ j : Fin book.length, book[j].tokens ⊆ argv →
    book[j].tokens.length = book[i].tokens.length → j ≤ i

variable {i j : Fin book.length}

theorem answers_iff : book.Answers i argv ↔ argv ≠ [] ∧ book[i].tokens ⊆ argv ∧
    ∀ j : Fin book.length, book[j].tokens ⊆ argv →
      book[j].tokens.length ≤ book[i].tokens.length ∧
        (book[j].tokens.length = book[i].tokens.length → j ≤ i) :=
  ⟨fun h => ⟨h.ne_nil, h.accepts, fun j hj => ⟨h.most j hj, h.last j hj⟩⟩,
    fun ⟨hne, haccepts, hrest⟩ =>
      ⟨hne, haccepts, fun j hj => (hrest j hj).1, fun j hj => (hrest j hj).2⟩⟩

instance : Decidable (book.Answers i argv) := decidable_of_iff _ answers_iff.symm

theorem Answers.exists_program (h : book.Answers i argv) :
    ∃ program, argv.head? = some program :=
  ⟨_, List.head?_eq_some_head h.ne_nil⟩

theorem Answers.unique (h : book.Answers i argv) (h' : book.Answers j argv) : i = j := by
  have hlength : book[i].tokens.length = book[j].tokens.length :=
    (h'.most i h.accepts).antisymm (h.most j h'.accepts)
  exact (h'.last i h.accepts hlength).antisymm (h.last j h'.accepts hlength.symm)

theorem exists_answers (hne : argv ≠ []) (h : ∃ e ∈ book, e.tokens ⊆ argv) :
    ∃ i, book.Answers i argv := by
  obtain ⟨e, he, haccepts⟩ := h
  obtain ⟨n, hn, rfl⟩ := List.mem_iff_getElem.1 he
  -- The greatest of the accepting entries, by tokens first and position next.
  obtain ⟨i, hi, hmax⟩ := Finset.exists_max_image
    (Finset.univ.filter fun i : Fin book.length => book[i].tokens ⊆ argv)
    (fun i => toLex (book[i].tokens.length, i)) ⟨⟨n, hn⟩, by simpa using haccepts⟩
  have hgreatest (j : Fin book.length) (hj : book[j].tokens ⊆ argv) :
      book[j].tokens.length < book[i].tokens.length ∨
        book[j].tokens.length = book[i].tokens.length ∧ j ≤ i :=
    Prod.Lex.toLex_le_toLex.1 (hmax j (by simpa using hj))
  refine ⟨i, hne, by simpa using hi, fun j hj => ?_, fun j hj hlength => ?_⟩
  · rcases hgreatest j hj with hless | ⟨hlength, -⟩
    · exact hless.le
    · exact hlength.le
  · rcases hgreatest j hj with hless | ⟨-, hlast⟩
    · omega
    · exact hlast

theorem Answers.select_eq (h : book.Answers i argv) :
    book.select argv = some (i.val, book[i]) := by
  have hbefore : ∀ f ∈ book.take i, f.tokens ⊆ argv →
      f.tokens.length ≤ book[i].tokens.length := by
    intro f hf
    obtain ⟨n, hn, rfl⟩ := List.mem_iff_getElem.1 (List.mem_of_mem_take hf)
    exact h.most ⟨n, hn⟩
  have hbehind : ∀ f ∈ book.drop (i + 1), f.tokens ⊆ argv →
      f.tokens.length < book[i].tokens.length := by
    intro f hf hsubset
    obtain ⟨n, hn, rfl⟩ := List.mem_drop_iff_getElem.1 hf
    have hj : i.val + 1 + n < book.length := by omega
    refine (h.most ⟨_, hj⟩ hsubset).lt_of_ne fun hsame => ?_
    have hlast : i.val + 1 + n ≤ i.val := h.last ⟨_, hj⟩ hsubset hsame
    omega
  have hselect := select_eq_some h.accepts hbefore hbehind
  rwa [Fin.getElem_fin, List.getElem_cons_drop, List.take_append_drop,
    List.length_take_of_le i.isLt.le] at hselect

/-- The playbook once each entry has answered so many commands. -/
def left (book : Playbook) (answered : Fin book.length → Nat) : Playbook :=
  List.ofFn fun i => book[i].left (answered i)

variable {answered : Fin book.length → Nat}

theorem left_zero : (book.left fun _ => 0) = book := List.ofFn_getElem

theorem length_left : (book.left answered).length = book.length := List.length_ofFn

theorem getElem_left (j : Fin (book.left answered).length) : (book.left answered)[j] =
    book[j.cast length_left].left (answered (j.cast length_left)) :=
  List.getElem_ofFn _

theorem getElem?_left : (book.left answered)[i.val]? = some (book[i].left (answered i)) := by
  simp [left]

theorem set_left {n : Nat} : (book.left answered).set i (book[i].left n) =
    book.left (Function.update answered i n) := by
  refine List.ext_getElem? fun position => ?_
  unfold left
  rw [List.getElem?_set, List.length_ofFn, if_pos i.isLt, List.getElem?_ofFn, List.getElem?_ofFn]
  split
  · next hposition =>
    subst hposition
    simp
  · next hposition =>
    split
    · next hlength =>
      rw [Function.update_of_ne (by simpa [Fin.ext_iff] using Ne.symm hposition)]
    · rfl

theorem Answers.left (h : book.Answers i argv) :
    (book.left answered).Answers (i.cast length_left.symm) argv := by
  have htokens (j : Fin (book.left answered).length) :
      (book.left answered)[j].tokens = book[j.cast length_left].tokens := by
    rw [getElem_left, PlaybookEntry.tokens_left]
  refine ⟨h.ne_nil, ?_, fun j => ?_, fun j => ?_⟩
  · rw [htokens]
    exact h.accepts
  · rw [htokens, htokens]
    exact h.most (j.cast length_left)
  · rw [htokens, htokens]
    exact h.last (j.cast length_left)

theorem select_left_of_answers (h : book.Answers i argv) :
    (book.left answered).select argv = some (i.val, book[i].left (answered i)) := by
  rw [h.left.select_eq, getElem_left]
  rfl

theorem select_left_of_unscripted (h : ∀ e ∈ book, ¬ e.tokens ⊆ argv) :
    (book.left answered).select argv = none := by
  refine select_eq_none fun e he => ?_
  obtain ⟨i, rfl⟩ := List.mem_ofFn.1 he
  exact h book[i] (List.getElem_mem _)

theorem answer_of_nil (hargv : c.argv = []) : book.answer c = (.error .emptyArgv, book) := by
  simp [answer, hargv]

theorem answer_of_select_none (hargv : c.argv ≠ []) (h : book.select c.argv = none) :
    book.answer c = (.ok {}, book) := by
  obtain ⟨program, args, hcons⟩ := List.exists_cons_of_ne_nil hargv
  rw [hcons] at h
  simp [answer, hcons, h]

theorem answer_of_select_some {program : String} (hprogram : c.argv.head? = some program)
    (h : book.select c.argv = some (position, e)) :
    book.answer c =
      (e.responses.take.1.elim (.error (.startup program scriptedFailure)) .ok,
        book.set position { e with responses := e.responses.take.2 }) := by
  obtain ⟨args, hcons⟩ := List.head?_eq_some_iff.1 hprogram
  rw [hcons] at h
  simp only [answer, hcons, h]
  cases e.responses.take.1 <;> rfl

theorem answer_left_of_answers {program : String} (hprogram : c.argv.head? = some program)
    (h : book.Answers i c.argv) :
    (book.left answered).answer c =
      ((book[i].responses.left (answered i)).take.1.elim
          (.error (.startup program scriptedFailure)) .ok,
        book.left (Function.update answered i (answered i + 1))) := by
  rw [answer_of_select_some hprogram (select_left_of_answers h), ← PlaybookEntry.left_succ,
    set_left]
  rfl

theorem answer_left_of_unscripted (hargv : c.argv ≠ [])
    (h : ∀ e ∈ book, ¬ e.tokens ⊆ c.argv) :
    (book.left answered).answer c = (.ok {}, book.left answered) :=
  answer_of_select_none hargv (select_left_of_unscripted h)

/-- How many of the commands the entry answers. -/
def turns (book : Playbook) (calls : List Call) (i : Fin book.length) : Nat :=
  calls.countP fun c => book.Answers i c.argv

theorem turns_concat_of_answers (h : book.Answers i c.argv) : book.turns (calls ++ [c]) =
    Function.update (book.turns calls) i (book.turns calls i + 1) := by
  funext j
  by_cases hj : j = i
  · subst hj
    simp [turns, h]
  · have hother : ¬ book.Answers j c.argv := fun h' => hj (h'.unique h)
    rw [Function.update_of_ne hj]
    simp [turns, hother]

theorem turns_concat_of_not_answers (h : ∀ i, ¬ book.Answers i c.argv) :
    book.turns (calls ++ [c]) = book.turns calls := by
  funext i
  simp [turns, h i]

theorem answers_cases (book : Playbook) (argv : Argv) : argv = [] ∨ (∃ i, book.Answers i argv) ∨
    argv ≠ [] ∧ ∀ e ∈ book, ¬ e.tokens ⊆ argv := by
  by_cases hargv : argv = []
  · exact .inl hargv
  by_cases haccepted : ∃ e ∈ book, e.tokens ⊆ argv
  · exact .inr (.inl (exists_answers hargv haccepted))
  · exact .inr (.inr ⟨hargv, fun e he hsubset => haccepted ⟨e, he, hsubset⟩⟩)

theorem answer_left_turns : ((book.left (book.turns calls)).answer c).2 =
    book.left (book.turns (calls ++ [c])) := by
  rcases book.answers_cases c.argv with hargv | ⟨i, h⟩ | ⟨hargv, h⟩
  · rw [answer_of_nil hargv, turns_concat_of_not_answers fun i h => h.ne_nil hargv]
  · obtain ⟨program, hprogram⟩ := h.exists_program
    rw [answer_left_of_answers hprogram h, turns_concat_of_answers h]
  · rw [answer_left_of_unscripted hargv h,
      turns_concat_of_not_answers fun i hi => h _ (List.getElem_mem _) hi.accepts]

/-- What is left of a playbook is told by how many of the commands each entry has answered. -/
theorem runner_after : runner.after book calls = book.left (book.turns calls) := by
  induction calls using List.reverseRecOn with
  | nil => exact left_zero.symm
  | append_singleton calls c ih =>
    rw [Runner.after_concat, ih]
    exact answer_left_turns

/-- What a command is told after earlier ones. -/
inductive Replies (book : Playbook) (earlier : List Call) (c : Call) :
    Except CommandFailure Completion → Prop where
  | emptyArgv (hargv : c.argv = []) : Replies book earlier c (.error .emptyArgv)
  | unscripted (hargv : c.argv ≠ []) (h : ∀ e ∈ book, ¬ e.tokens ⊆ c.argv) :
    Replies book earlier c (.ok { stdout := "", stderr := "", exitCode := some 0 })
  | startupFailure {program : String} {i : Fin book.length} (h : book.Answers i c.argv)
      (hprogram : c.argv.head? = some program) (hfails : book[i].responses = .startupFailure) :
    Replies book earlier c (.error (.startup program scriptedFailure))
  | output {os : List Completion} {o : Completion} {i : Fin book.length}
      (h : book.Answers i c.argv) (hresponses : Responses.ofList? os = some book[i].responses)
      (hturn : os[min (book.turns earlier i + 1) os.length - 1]? = some o) :
    Replies book earlier c (.ok o)

variable {r : Except CommandFailure Completion}

theorem Replies.answer_eq (h : book.Replies calls c r) :
    ((book.left (book.turns calls)).answer c).1 = r := by
  cases h with
  | emptyArgv hargv => rw [answer_of_nil hargv]
  | unscripted hargv h => rw [answer_left_of_unscripted hargv h]
  | startupFailure h hprogram hfails =>
    rw [answer_left_of_answers hprogram h, hfails, Responses.left_startupFailure]
    rfl
  | @output os o i h hresponses hturn =>
    obtain ⟨program, hprogram⟩ := h.exists_program
    obtain ⟨first, later, rfl, houtputs⟩ := Responses.eq_outputs_of_ofList hresponses
    rw [List.length_cons, Nat.succ_min_succ, Nat.succ_sub_one] at hturn
    rw [answer_left_of_answers hprogram h, houtputs, Responses.take_left_outputs, hturn]
    rfl

theorem exists_replies (book : Playbook) (calls : List Call) (c : Call) :
    ∃ r, book.Replies calls c r := by
  rcases book.answers_cases c.argv with hargv | ⟨i, h⟩ | ⟨hargv, h⟩
  · exact ⟨_, .emptyArgv hargv⟩
  · rcases hresponses : book[i].responses with ⟨o, later⟩ | _
    · have hlist : Responses.ofList? (o :: later) = some book[i].responses := by
        rw [hresponses, Responses.ofList?]
      have hturn : min (book.turns calls i + 1) (o :: later).length - 1 < (o :: later).length := by
        rw [List.length_cons]
        omega
      exact ⟨_, .output h hlist (List.getElem?_eq_getElem hturn)⟩
    · obtain ⟨program, hprogram⟩ := h.exists_program
      exact ⟨_, .startupFailure h hprogram hresponses⟩
  · exact ⟨_, .unscripted hargv h⟩

theorem answer_eq_iff_replies :
    ((book.left (book.turns calls)).answer c).1 = r ↔ book.Replies calls c r := by
  constructor
  · rintro rfl
    obtain ⟨r, hreplies⟩ := book.exists_replies calls c
    rw [hreplies.answer_eq]
    exact hreplies
  · exact Replies.answer_eq

/-- Each command of a rehearsal is told what the playbook says of it after the commands before it.
It uses up a response of the entry that answers it and of no other, and it is recorded behind them,
whatever it is told. -/
theorem replies_in_turn (book : Playbook) (s : Session Playbook) (hs : s.memory = book)
    (calls : List Call) (c : Call) :
    (∀ r, (((s.afterCalls runner calls).call runner c).1 = r ↔ book.Replies calls c r)) ∧
      (∀ i : Fin book.length, ¬ book.Answers i c.argv →
        ((s.afterCalls runner calls).call runner c).2.memory[i.val]? =
          (s.afterCalls runner calls).memory[i.val]?) ∧
      ((s.afterCalls runner calls).call runner c).2.calls = s.calls ++ calls ++ [c] := by
  have hissued : Session.Issued runner calls s (s.afterCalls runner calls) :=
    Session.issued_afterCalls
  have hmemory : (s.afterCalls runner calls).memory = book.left (book.turns calls) := by
    rw [hissued.memory_eq, hs, runner_after]
  refine ⟨fun r => ?_, fun i hi => ?_, ?_⟩
  · rw [Session.answer_call, hmemory]
    exact answer_eq_iff_replies
  · have hafter : ((s.afterCalls runner calls).call runner c).2.memory =
        book.left (book.turns (calls ++ [c])) := by
      rw [Session.memory_call, hmemory]
      exact answer_left_turns
    have hturns : book.turns (calls ++ [c]) i = book.turns calls i := by simp [turns, hi]
    rw [hafter, hmemory, getElem?_left, getElem?_left, hturns]
  · rw [Session.calls_call, hissued.calls_eq]

/-- Two entries for pods with as many tokens, one for whatever is asked for, and one that fails. -/
def overlapping : Playbook :=
  [⟨["get"], .outputs { stdout := "istio-ingressgateway" } []⟩,
    ⟨["get", "pod"], .outputs { stdout := "web 0/1 Error" } []⟩,
    ⟨["pod", "get"], .outputs { stdout := "web 0/1 Pending" } [{ stdout := "web 1/1 Running" }]⟩,
    ⟨["whoami"], .startupFailure⟩]

def podQuery : Call := { argv := ["oc", "get", "pod"] }

def rehearsed : List Call :=
  [podQuery, { argv := ["oc", "get", "svc"] }, { argv := [] }, { argv := ["oc", "whoami"] },
    { argv := ["oc", "version"] }, podQuery]

theorem replies_in_turn_of_overlapping :
    let s := ({ memory := overlapping } : Session Playbook).afterCalls runner rehearsed
    (s.call runner podQuery).1 = .ok { stdout := "web 1/1 Running" } ∧
      (s.call runner podQuery).2.memory[1]? = s.memory[1]? ∧
      (s.call runner podQuery).2.calls = rehearsed ++ [podQuery] := by
  obtain ⟨hreplies, hkept, hcalls⟩ :=
    replies_in_turn overlapping { memory := overlapping } rfl rehearsed podQuery
  let pods : Fin overlapping.length := ⟨2, by decide⟩
  have hanswers : overlapping.Answers pods podQuery.argv := by decide
  have hturns : overlapping.turns rehearsed pods = 2 := by decide
  have hresponses : Responses.ofList?
      [{ stdout := "web 0/1 Pending" }, { stdout := "web 1/1 Running" }] =
        some overlapping[pods].responses := rfl
  exact ⟨(hreplies _).2 (.output hanswers hresponses (by rw [hturns]; rfl)),
    hkept ⟨1, by decide⟩ (by decide), hcalls⟩

end Playbook

end MeshTestbed
