import MeshTestbed.Command.ClusterTool
import MeshTestbed.Proofs.Execution
import MeshTestbed.Rehearsal.Playbook
import MeshTestbed.Run.Sequence

/-!
Two runs issue the same requests, each through a cluster tool of its own, to runners that reply
alike. `RunM.Alike` says that they stay alike, with one rule for each way to build a run.
-/

namespace MeshTestbed

variable {σ τ α β γ δ : Type}

/-- What is asked of the cluster: the arguments behind the program and its kubeconfig, and what the
command reads. -/
structure ClusterRequest where
  args : Argv
  input : Option String := none
deriving DecidableEq

namespace ClusterRequest

def call (r : ClusterRequest) (tool : ClusterTool) : Call := ⟨tool.command r.args, r.input⟩

theorem call_inj {tool : ClusterTool} {r r' : ClusterRequest} :
    r.call tool = r'.call tool ↔ r = r' := by
  rcases r with ⟨args, input⟩
  rcases r' with ⟨args', input'⟩
  simp [call, ClusterTool.command]

theorem call_of_kubeconfig {tool : ClusterTool} {kubeconfig : String} {r : ClusterRequest}
    (h : tool.kubeconfig = some kubeconfig) :
    r.call tool = ⟨tool.program :: "--kubeconfig" :: kubeconfig :: r.args, r.input⟩ := by
  simp [call, ClusterTool.command, ClusterTool.kubeconfigArgs, h]

theorem call_ne_nil {tool : ClusterTool} {r : ClusterRequest} : (r.call tool).argv ≠ [] := by
  simp [call, ClusterTool.command]

end ClusterRequest

/-- Asked the same through these tools in memories that are alike, the runners reply the same and
go on in memories that are alike. -/
structure Runner.Alike (alike : σ → τ → Prop) (tool tool' : ClusterTool) (runner : Runner σ)
    (runner' : Runner τ) : Prop where
  reply : ∀ (request : ClusterRequest) memory memory', alike memory memory' →
    (runner.reply memory (request.call tool)).1 = (runner'.reply memory' (request.call tool')).1
  memory : ∀ (request : ClusterRequest) memory memory', alike memory memory' →
    alike (runner.reply memory (request.call tool)).2 (runner'.reply memory' (request.call tool')).2
  sleepWins : runner.sleepWins = runner'.sleepWins

theorem Runner.Alike.refl {tool : ClusterTool} {runner : Runner σ} :
    runner.Alike Eq tool tool runner where
  reply request memory memory' h := by rw [h]
  memory request memory memory' h := by rw [h]
  sleepWins := rfl

theorem Runner.Alike.ofReplies {tool tool' : ClusterTool} {last : Reply} :
    (Runner.ofReplies last).Alike Eq tool tool' (Runner.ofReplies last) where
  reply := by
    rintro request (_ | ⟨r, _ | ⟨next, later⟩⟩) _ rfl <;> rfl
  memory := by
    rintro request (_ | ⟨r, _ | ⟨next, later⟩⟩) _ rfl <;> rfl
  sleepWins := rfl

/-- The record without the text of its command, which shows the credentials. -/
def StageRecord.withoutCommand (r : StageRecord) : StageRecord := { r with command := "" }

def Event.withoutCommand : Event → Event
  | .stageStarted stage kind _ => .stageStarted stage kind ""
  | .stageFinished r => .stageFinished r.withoutCommand
  | e => e

def Stop.withoutCommand (s : Stop) : Stop :=
  if s.status = .failed then { s with reason := "" } else s

def SequenceRecord.withoutCommands (r : SequenceRecord) : SequenceRecord :=
  { r with
    results := r.results.map StageRecord.withoutCommand
    stop := r.stop.map Stop.withoutCommand }

namespace Session

def withMemory (s : Session σ) (memory : τ) : Session τ := { s with memory }

/-- All but what the runner remembers and what is on record. -/
def course (s : Session σ) : Nat × Option String × Option (Nat × String) × Stamp :=
  (s.now, s.cancelled, s.timer, s.origin)

/-- The sessions are at the same point, each on record with the requests as its tool makes them;
before those, the commands were the same. -/
structure Alike (alike : σ → τ → Prop) (tool tool' : ClusterTool) (earlier : List Call)
    (s : Session σ) (s' : Session τ) : Prop where
  memory : alike s.memory s'.memory
  course : s.course = s'.course
  events : s.events.map Event.withoutCommand = s'.events.map Event.withoutCommand
  calls : ∃ requests : List ClusterRequest, s.calls = earlier ++ requests.map (·.call tool) ∧
    s'.calls = earlier ++ requests.map (·.call tool')

variable {alike : σ → τ → Prop} {tool tool' : ClusterTool} {earlier : List Call} {s : Session σ}
  {s' : Session τ} {runner : Runner σ} {runner' : Runner τ} {ms : Nat}

theorem course_eq_iff : s.course = s'.course ↔
    s.now = s'.now ∧ s.cancelled = s'.cancelled ∧ s.timer = s'.timer ∧ s.origin = s'.origin := by
  simp [course]

theorem course_cancel (h : s.course = s'.course) (reason : String) :
    (s.cancel reason).course = (s'.cancel reason).course := by
  obtain ⟨hnow, hcancelled, htimer, horigin⟩ := course_eq_iff.1 h
  simp [course, cancel, hnow, hcancelled, htimer, horigin]

theorem course_moveTo (h : s.course = s'.course) (t : Nat) :
    (s.moveTo t).course = (s'.moveTo t).course := by
  obtain ⟨-, hcancelled, htimer, horigin⟩ := course_eq_iff.1 h
  unfold moveTo
  rw [htimer]
  split
  · split <;> simp [course, cancel, hcancelled, horigin]
  · simp [course, hcancelled, horigin]

theorem course_advance (h : s.course = s'.course) (ms : Nat) :
    (s.advance ms).course = (s'.advance ms).course := by
  unfold advance
  rw [(course_eq_iff.1 h).1]
  split
  · exact h
  · exact course_moveTo h _

theorem course_call {c c' : Call} (h : s.course = s'.course)
    (hreply : (runner.reply s.memory c).1 = (runner'.reply s'.memory c').1) :
    (s.call runner c).2.course = (s'.call runner' c').2.course := by
  rcases hr : runner.reply s.memory c with ⟨reply, memory⟩
  rcases hr' : runner'.reply s'.memory c' with ⟨reply', memory'⟩
  obtain rfl : reply = reply' := by simpa [hr, hr'] using hreply
  simp only [call, hr, hr']
  rcases reply.interrupt with _ | reason <;> dsimp only
  · refine course_advance ?_ _
    exact h
  · refine course_cancel (course_advance ?_ _) reason
    exact h

theorem calls_moveTo {t : Nat} : (s.moveTo t).calls = s.calls := by
  rw [calls, calls, log_moveTo]

namespace Alike

theorem now (h : s.Alike alike tool tool' earlier s') : s.now = s'.now :=
  (course_eq_iff.1 h.course).1

theorem cancelled (h : s.Alike alike tool tool' earlier s') : s.cancelled = s'.cancelled :=
  (course_eq_iff.1 h.course).2.1

theorem stamp (h : s.Alike alike tool tool' earlier s') : s.stamp = s'.stamp := by
  rw [Session.stamp, Session.stamp, h.now, (course_eq_iff.1 h.course).2.2.2]

theorem canWait (h : s.Alike alike tool tool' earlier s') (timeout : Span) :
    s.canWait timeout = s'.canWait timeout := by
  rw [Session.canWait, Session.canWait, h.now]

theorem moveTo (h : s.Alike alike tool tool' earlier s') (t : Nat) :
    (s.moveTo t).Alike alike tool tool' earlier (s'.moveTo t) where
  memory := by simpa using h.memory
  course := course_moveTo h.course t
  events := by simpa using h.events
  calls := by simpa [calls_moveTo] using h.calls

theorem told {e e' : Event} (he : e.withoutCommand = e'.withoutCommand)
    (h : s.Alike alike tool tool' earlier s') :
    (s.told e).Alike alike tool tool' earlier (s'.told e') where
  memory := h.memory
  course := h.course
  events := by simp [h.events, he]
  calls := h.calls

theorem call (hrunner : runner.Alike alike tool tool' runner')
    (h : s.Alike alike tool tool' earlier s') (request : ClusterRequest) :
    (s.call runner (request.call tool)).1 = (s'.call runner' (request.call tool')).1 ∧
      (s.call runner (request.call tool)).2.Alike alike tool tool' earlier
        (s'.call runner' (request.call tool')).2 := by
  have hreply := hrunner.reply request _ _ h.memory
  refine ⟨by rw [answer_call, answer_call, hreply], ?_, ?_, by simpa using h.events, ?_⟩
  · rw [memory_call, memory_call]
    exact hrunner.memory request _ _ h.memory
  · exact course_call h.course hreply
  · obtain ⟨requests, hcalls, hcalls'⟩ := h.calls
    exact ⟨requests ++ [request], by simp [hcalls], by simp [hcalls']⟩

theorem sleep (hrunner : runner.Alike alike tool tool' runner')
    (h : s.Alike alike tool tool' earlier s') :
    (s.sleep runner ms).1 = (s'.sleep runner' ms).1 ∧
      (s.sleep runner ms).2.Alike alike tool tool' earlier (s'.sleep runner' ms).2 := by
  obtain ⟨hnow, hcancelled, htimer, -⟩ := course_eq_iff.1 h.course
  unfold Session.sleep
  rw [hnow, hcancelled, htimer, hrunner.sleepWins]
  dsimp only
  split
  · exact ⟨rfl, h⟩
  · split
    · exact ⟨rfl, h.moveTo _⟩
    · split
      · exact ⟨rfl, h.moveTo _⟩
      · exact ⟨rfl, h.moveTo _⟩
  · exact ⟨rfl, h.moveTo _⟩

end Alike

end Session

namespace RunM

/-- Both answer, and alike, or both end in the same fault. -/
def AnswersAlike (R : α → β → Prop) : Except Fault α → Except Fault β → Prop
  | .ok a, .ok b => R a b
  | .error e, .error e' => e = e'
  | _, _ => False

/-- From any two sessions in the relation the runs answer alike, and leave sessions in the
relation. -/
def Alike (sim : Session σ → Session τ → Prop) (R : α → β → Prop) (m : RunM σ α) (m' : RunM τ β) :
    Prop :=
  ∀ s s', sim s s' → AnswersAlike R (m.outcome s).1 (m'.outcome s').1 ∧
    sim (m.outcome s).2 (m'.outcome s').2

theorem answersAlike_iff {f : α → γ} {g : β → γ} {x : Except Fault α} {y : Except Fault β} :
    AnswersAlike (fun a b => f a = g b) x y ↔ x.map f = y.map g := by
  rcases x with e | a <;> rcases y with e' | b <;> simp [AnswersAlike, Except.map]

namespace Alike

variable {sim : Session σ → Session τ → Prop} {R : α → β → Prop} {Q : γ → δ → Prop}

theorem pure {a : α} {b : β} (h : R a b) :
    Alike sim R (pure a : RunM σ α) (pure b : RunM τ β) :=
  fun _ _ hsim => ⟨h, hsim⟩

theorem throw {e : Fault} : Alike sim R (throw e : RunM σ α) (throw e : RunM τ β) :=
  fun _ _ hsim => ⟨rfl, hsim⟩

theorem bind {m : RunM σ α} {m' : RunM τ β} {f : α → RunM σ γ} {f' : β → RunM τ δ}
    (h : Alike sim R m m') (hf : ∀ a b, R a b → Alike sim Q (f a) (f' b)) :
    Alike sim Q (m >>= f) (m' >>= f') := by
  intro s s' hsim
  obtain ⟨hanswers, hsim⟩ := h s s' hsim
  rw [outcome_bind, outcome_bind]
  rcases hm : m.outcome s with ⟨e | a, t⟩ <;> rcases hm' : m'.outcome s' with ⟨e' | b, t'⟩ <;>
    simp only [hm, hm', AnswersAlike] at hanswers hsim
  · exact ⟨hanswers, hsim⟩
  · exact hf a b hanswers t t' hsim

theorem bindEq {m : RunM σ α} {m' : RunM τ α} {f : α → RunM σ γ} {f' : α → RunM τ δ}
    (h : Alike sim Eq m m') (hf : ∀ a, Alike sim Q (f a) (f' a)) :
    Alike sim Q (m >>= f) (m' >>= f') := by
  refine h.bind ?_
  rintro a _ rfl
  exact hf a

theorem read {f : Session σ → α} {g : Session τ → β} (h : ∀ s s', sim s s' → R (f s) (g s')) :
    Alike sim R (do return f (← get)) (do return g (← get)) :=
  fun s s' hsim => ⟨h s s' hsim, hsim⟩

theorem get : Alike sim sim (get : RunM σ (Session σ)) (get : RunM τ (Session τ)) :=
  fun _ _ hsim => ⟨hsim, hsim⟩

theorem mapM {f : γ → RunM σ α} {f' : γ → RunM τ α} (h : ∀ x, Alike sim Eq (f x) (f' x))
    (xs : List γ) : Alike sim Eq (xs.mapM f) (xs.mapM f') := by
  induction xs with
  | nil => exact .pure rfl
  | cons x xs ih =>
    rw [List.mapM_cons, List.mapM_cons]
    exact (h x).bindEq fun a => ih.bindEq fun rest => .pure rfl

variable {alike : σ → τ → Prop} {tool tool' : ClusterTool} {earlier : List Call}
  {runner : Runner σ} {runner' : Runner τ}

theorem call (hrunner : runner.Alike alike tool tool' runner') (request : ClusterRequest) :
    Alike (Session.Alike alike tool tool' earlier) Eq (RunM.call runner (request.call tool))
      (RunM.call runner' (request.call tool')) :=
  fun _ _ h => h.call hrunner request

theorem sleep (hrunner : runner.Alike alike tool tool' runner') (interval : Span) :
    Alike (Session.Alike alike tool tool' earlier) Eq (RunM.sleep runner interval)
      (RunM.sleep runner' interval) :=
  fun _ _ h => h.sleep hrunner

theorem tell {e e' : Event} (he : e.withoutCommand = e'.withoutCommand) :
    Alike (Session.Alike alike tool tool' earlier) Eq (RunM.tell e) (RunM.tell e') :=
  fun _ _ h => ⟨rfl, h.told he⟩

theorem stamp : Alike (Session.Alike alike tool tool' earlier) Eq RunM.stamp RunM.stamp :=
  read fun _ _ h => h.stamp

theorem cancelled :
    Alike (Session.Alike alike tool tool' earlier) Eq RunM.cancelled RunM.cancelled :=
  read fun _ _ h => h.cancelled

end Alike

end RunM

end MeshTestbed
