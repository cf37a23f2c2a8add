/-!
The cancellation of a run as its observers see it: only the first reason counts, and every callback
runs once, inside the first cancellation or, if it comes later, as it is registered. A callback may
itself cancel or register, and may panic; the panic ends that callback alone. Who sleeps until the
cancellation is woken after the callbacks have run.

The calls under way are a list of tasks, the innermost first: what a callback calls stands before
the rest of the callback, and that before the callbacks that are still to run.
-/

namespace MeshTestbed

mutual

inductive CancelHook where
  | mk (id : Nat) (calls : List CancelCall) (panics : Bool)

inductive CancelCall where
  | cancel (reason : String)
  | register (callback : CancelHook)

end

structure CancelMark where
  id : Nat
  isCancelled : Bool
  reason : Option String
deriving DecidableEq

structure Cancellation where
  isCancelled : Bool := false
  reason : Option String := none
  callbacks : List CancelHook := []
  fired : List CancelMark := []
  asleep : List Nat := []
  awake : List Nat := []

inductive CancelTask where
  | call (made : CancelCall)
  /-- The reason follows the flag. -/
  | store (reason : String)
  | run (callback : CancelHook)
  | panic
  | leave
  | wake

mutual

/-- A bound on the tasks that come of a callback once the token is cancelled. -/
def CancelHook.size : CancelHook → Nat
  | .mk _ calls _ => CancelCall.sizeAll calls + 3

def CancelCall.sizeAll : List CancelCall → Nat
  | [] => 0
  | .cancel _ :: rest => CancelCall.sizeAll rest + 3
  | .register callback :: rest => callback.size + CancelCall.sizeAll rest + 1

end

namespace CancelTask

def size : CancelTask → Nat
  | .call made => CancelCall.sizeAll [made]
  | .run callback => callback.size
  | _ => 1

def sizeAll : List CancelTask → Nat
  | [] => 0
  | task :: rest => task.size + sizeAll rest

def unwind : List CancelTask → List CancelTask
  | [] => []
  | .leave :: rest => rest
  | _ :: rest => unwind rest

@[simp] theorem sizeAll_nil : sizeAll [] = 0 := rfl

@[simp] theorem sizeAll_cons (task : CancelTask) (rest : List CancelTask) :
    sizeAll (task :: rest) = task.size + sizeAll rest := rfl

@[simp] theorem sizeAll_append (tasks tasks' : List CancelTask) :
    sizeAll (tasks ++ tasks') = sizeAll tasks + sizeAll tasks' := by
  induction tasks with
  | nil => exact (Nat.zero_add _).symm
  | cons task rest ih => rw [List.cons_append, sizeAll_cons, sizeAll_cons, ih, Nat.add_assoc]

@[simp] theorem sizeAll_calls (calls : List CancelCall) :
    sizeAll (calls.map .call) = CancelCall.sizeAll calls := by
  induction calls with
  | nil => rfl
  | cons made rest ih =>
    rw [List.map_cons, sizeAll_cons, ih]
    cases made with
    | cancel => simp only [size, CancelCall.sizeAll]; omega
    | register => simp only [size, CancelCall.sizeAll]; omega

theorem sizeAll_unwind_le (tasks : List CancelTask) : sizeAll (unwind tasks) ≤ sizeAll tasks := by
  fun_induction unwind tasks with
  | case1 => exact Nat.le_refl _
  | case2 rest =>
    rw [sizeAll_cons]
    omega
  | case3 rest task _ ih =>
    rw [sizeAll_cons]
    omega

end CancelTask

namespace Cancellation

/-- Does a task; answers what is to be done then. The first cancellation sets the flag, stores the
reason, runs the callbacks and wakes who sleeps. -/
def advance (c : Cancellation) (rest : List CancelTask) :
    CancelTask → Cancellation × List CancelTask
  | .call (.cancel reason) =>
    if c.isCancelled then (c, rest)
    else ({ c with isCancelled := true }, .store reason :: (c.callbacks.map .run ++ .wake :: rest))
  | .call (.register callback) =>
    if c.isCancelled then (c, .run callback :: rest)
    else ({ c with callbacks := c.callbacks ++ [callback] }, rest)
  | .store reason => ({ c with reason := some reason }, rest)
  | .run (.mk id calls panics) =>
    ({ c with fired := c.fired ++ [⟨id, c.isCancelled, c.reason⟩] },
      calls.map .call ++ ((if panics then [.panic] else []) ++ .leave :: rest))
  | .panic => (c, CancelTask.unwind rest)
  | .leave => (c, rest)
  | .wake => ({ c with asleep := [], awake := c.awake ++ c.asleep }, rest)

def tasksLeft (c : Cancellation) (tasks : List CancelTask) : Nat :=
  CancelTask.sizeAll tasks + if c.isCancelled then 0 else CancelTask.sizeAll (c.callbacks.map .run)

theorem tasksLeft_advance_lt (c : Cancellation) (task : CancelTask) (rest : List CancelTask) :
    (c.advance rest task).1.tasksLeft (c.advance rest task).2 < c.tasksLeft (task :: rest) := by
  unfold tasksLeft
  cases task with
  | call made =>
    cases hc : c.isCancelled <;> cases made <;>
      simp [advance, hc, CancelTask.size, CancelCall.sizeAll] <;> omega
  | run callback =>
    obtain ⟨id, calls, panics⟩ := callback
    cases panics <;> simp [advance, CancelTask.size, CancelHook.size] <;> omega
  | panic =>
    have hle := CancelTask.sizeAll_unwind_le rest
    exact Nat.add_lt_add_right (by simp [advance, CancelTask.size]; omega) _
  | store | leave | wake => exact Nat.add_lt_add_right (by simp [advance, CancelTask.size]) _

def finish (c : Cancellation) : List CancelTask → Cancellation
  | [] => c
  | task :: rest => finish (c.advance rest task).1 (c.advance rest task).2
termination_by tasks => c.tasksLeft tasks
decreasing_by exact c.tasksLeft_advance_lt task rest

def make (c : Cancellation) (made : CancelCall) : Cancellation := c.finish [.call made]

def cancel (c : Cancellation) (reason : String) : Cancellation := c.make (.cancel reason)

def register (c : Cancellation) (callback : CancelHook) : Cancellation :=
  c.make (.register callback)

def sleep (c : Cancellation) (sleeper : Nat) : Cancellation :=
  if c.isCancelled then { c with awake := c.awake ++ [sleeper] }
  else { c with asleep := c.asleep ++ [sleeper] }

def rise (c : Cancellation) (sleeper : Nat) : Cancellation :=
  { c with asleep := c.asleep.filter (· ≠ sleeper), awake := c.awake.filter (· ≠ sleeper) }

/-- Sleeps for `limit` at most. A timer may bring the cancellation in that time; answers whether it
came. -/
def wait (c : Cancellation) (sleeper limit : Nat) (timer : Option Nat) (reason : String) :
    Bool × Cancellation :=
  let c := c.sleep sleeper
  let c := match timer with
    | some due => if due < limit then c.cancel reason else c
    | none => c
  (c.awake.contains sleeper, c.rise sleeper)

end Cancellation

inductive CancelEvent where
  | call (made : CancelCall)
  | sleep (sleeper : Nat)

namespace Cancellation

def meet (c : Cancellation) : CancelEvent → Cancellation
  | .call made => c.make made
  | .sleep sleeper => c.sleep sleeper

def run (history : List CancelEvent) : Cancellation := history.foldl meet {}

end Cancellation

end MeshTestbed
