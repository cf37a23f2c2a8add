import MeshTestbed.Cancellation
import Mathlib.Data.List.Induction

/-!
A callback of a cancelled token leaves its mark and those of the callbacks that it registers, and
nothing else comes of it, whether or not one of them panics or cancels again. So the state of a
token is told by what has happened to it (`run_eq`).
-/

namespace MeshTestbed

mutual

def CancelHook.ids : CancelHook → List Nat
  | .mk id calls _ => id :: CancelCall.idsAll calls

def CancelCall.idsAll : List CancelCall → List Nat
  | [] => []
  | .cancel _ :: rest => CancelCall.idsAll rest
  | .register callback :: rest => callback.ids ++ CancelCall.idsAll rest

end

namespace Cancellation

variable {c : Cancellation} {task : CancelTask} {rest : List CancelTask} {reason : String}
  {callback : CancelHook} {history : List CancelEvent} {event : CancelEvent}

theorem finish_nil : c.finish [] = c := by rw [finish]

theorem finish_cons :
    c.finish (task :: rest) = (c.advance rest task).1.finish (c.advance rest task).2 := by
  rw [finish]

/-- The token with the marks of callbacks that see it as it is. -/
def marked (c : Cancellation) (ids : List Nat) : Cancellation :=
  { c with fired := c.fired ++ ids.map fun id => ⟨id, c.isCancelled, c.reason⟩ }

theorem marked_nil : c.marked [] = c := by simp [marked]

theorem marked_marked {ids ids' : List Nat} :
    (c.marked ids).marked ids' = c.marked (ids ++ ids') := by
  simp [marked]

theorem finish_end (panics : Bool) :
    c.finish ((if panics then [.panic] else []) ++ .leave :: rest) = c.finish rest := by
  cases panics
  · exact finish_cons
  · exact finish_cons

mutual

theorem finish_run (c : Cancellation) (hc : c.isCancelled = true) (rest : List CancelTask) :
    ∀ callback : CancelHook,
      c.finish (.run callback :: rest) = (c.marked callback.ids).finish rest
  | .mk id calls panics => by
    have hmark : c.finish (.run (.mk id calls panics) :: rest) = (c.marked [id]).finish
        (calls.map .call ++ ((if panics then [.panic] else []) ++ .leave :: rest)) := finish_cons
    rw [hmark, finish_calls (c.marked [id]) hc, finish_end, marked_marked, CancelHook.ids,
      List.singleton_append]

theorem finish_calls (c : Cancellation) (hc : c.isCancelled = true) (rest : List CancelTask) :
    ∀ calls : List CancelCall,
      c.finish (calls.map .call ++ rest) = (c.marked (CancelCall.idsAll calls)).finish rest
  | [] => by rw [CancelCall.idsAll, marked_nil, List.map_nil, List.nil_append]
  | .cancel reason :: calls => by
    rw [List.map_cons, List.cons_append, finish_cons, advance, if_pos hc, CancelCall.idsAll,
      finish_calls c hc rest calls]
  | .register callback :: calls => by
    rw [List.map_cons, List.cons_append, finish_cons, advance, if_pos hc, CancelCall.idsAll,
      finish_run c hc _ callback, finish_calls (c.marked callback.ids) hc rest calls,
      marked_marked]

end

theorem finish_callbacks (hc : c.isCancelled = true) (callbacks : List CancelHook) :
    c.finish (callbacks.map .run ++ rest) =
      (c.marked (callbacks.flatMap CancelHook.ids)).finish rest := by
  induction callbacks generalizing c with
  | nil => rw [List.flatMap_nil, marked_nil, List.map_nil, List.nil_append]
  | cons callback callbacks ih =>
    have hmarked : (c.marked callback.ids).isCancelled = true := hc
    rw [List.map_cons, List.cons_append, finish_run c hc, ih hmarked, marked_marked,
      List.flatMap_cons]

theorem make_cancel_of_isCancelled (hc : c.isCancelled = true) : c.make (.cancel reason) = c := by
  rw [make, finish_cons, advance, if_pos hc, finish_nil]

theorem make_register_of_isCancelled (hc : c.isCancelled = true) :
    c.make (.register callback) = c.marked callback.ids := by
  rw [make, finish_cons, advance, if_pos hc, finish_run c hc, finish_nil]

theorem make_register_of_not_isCancelled (hc : c.isCancelled = false) :
    c.make (.register callback) = { c with callbacks := c.callbacks ++ [callback] } := by
  rw [make, finish_cons, advance, if_neg (by simp [hc]), finish_nil]

/-- The marks of callbacks that see the token cancelled for the reason. -/
def marksOf (reason : String) (callbacks : List CancelHook) : List CancelMark :=
  (callbacks.flatMap CancelHook.ids).map fun id => ⟨id, true, some reason⟩

theorem make_cancel_of_not_isCancelled (hc : c.isCancelled = false) :
    c.make (.cancel reason) =
      { c with
        isCancelled := true
        reason := some reason
        fired := c.fired ++ marksOf reason c.callbacks
        asleep := []
        awake := c.awake ++ c.asleep } := by
  rw [make, finish_cons, advance, if_neg (by simp [hc]), finish_cons, advance,
    finish_callbacks rfl, finish_cons, advance, finish_nil]
  rfl

/-- No one has cancelled from outside. -/
def Uncancelled (history : List CancelEvent) : Prop :=
  ∀ reason, .call (.cancel reason) ∉ history

def registered (history : List CancelEvent) : List CancelHook :=
  history.filterMap fun
    | .call (.register callback) => some callback
    | _ => none

def sleepers (history : List CancelEvent) : List Nat :=
  history.filterMap fun
    | .sleep sleeper => some sleeper
    | _ => none

theorem run_append : run (history ++ [event]) = (run history).meet event := by simp [run]

theorem run_of_uncancelled (h : Uncancelled history) :
    run history = { callbacks := registered history, asleep := sleepers history } := by
  induction history using List.reverseRecOn with
  | nil => rfl
  | append_singleton history event ih =>
    rw [run_append, ih fun reason hmem => h reason (List.mem_append_left _ hmem)]
    cases event with
    | call made =>
      cases made with
      | cancel reason => exact (h reason (by simp)).elim
      | register callback =>
        rw [meet, make_register_of_not_isCancelled rfl]
        simp [registered, sleepers]
    | sleep sleeper => simp [meet, sleep, registered, sleepers]

/-- The first cancellation decides what the token is from then on. -/
theorem run_of_cancelled {before after : List CancelEvent} (h : Uncancelled before) :
    run (before ++ .call (.cancel reason) :: after) =
      { isCancelled := true
        reason := some reason
        callbacks := registered before
        fired := marksOf reason (registered before ++ registered after)
        awake := sleepers before ++ sleepers after } := by
  induction after using List.reverseRecOn with
  | nil =>
    rw [run_append, run_of_uncancelled h, meet, make_cancel_of_not_isCancelled rfl]
    simp [registered, sleepers]
  | append_singleton after event ih =>
    rw [← List.cons_append, ← List.append_assoc, run_append, ih]
    cases event with
    | call made =>
      cases made with
      | cancel later =>
        rw [meet, make_cancel_of_isCancelled rfl]
        simp [registered, sleepers]
      | register callback =>
        rw [meet, make_register_of_isCancelled rfl]
        simp [marked, marksOf, registered, sleepers]
    | sleep sleeper => simp [meet, sleep, registered, sleepers]

theorem uncancelled_or_exists (history : List CancelEvent) : Uncancelled history ∨
    ∃ before reason after, history = before ++ .call (.cancel reason) :: after ∧
      Uncancelled before := by
  induction history with
  | nil => exact .inl fun _ => List.not_mem_nil
  | cons event rest ih =>
    by_cases hfirst : ∃ reason, event = .call (.cancel reason)
    · obtain ⟨reason, rfl⟩ := hfirst
      exact .inr ⟨[], reason, rest, rfl, fun _ => List.not_mem_nil⟩
    · have hcons {events : List CancelEvent} (h : Uncancelled events) :
          Uncancelled (event :: events) := by
        intro reason hmem
        rcases List.mem_cons.1 hmem with heq | hmem
        · exact hfirst ⟨reason, heq.symm⟩
        · exact h reason hmem
      rcases ih with hnone | ⟨before, reason, after, rfl, hbefore⟩
      · exact .inl (hcons hnone)
      · exact .inr ⟨event :: before, reason, after, rfl, hcons hbefore⟩

theorem isCancelled_run_iff :
    (run history).isCancelled = true ↔ ∃ reason, .call (.cancel reason) ∈ history := by
  rcases uncancelled_or_exists history with h | ⟨before, reason, after, rfl, hbefore⟩
  · rw [run_of_uncancelled h]
    exact iff_of_false (by simp) fun ⟨reason, hmem⟩ => h reason hmem
  · rw [run_of_cancelled hbefore]
    exact iff_of_true rfl ⟨reason, by simp⟩

/-- A token is cancelled once someone has called for it. Until then no callback runs and no one
wakes. From then on it is cancelled for the reason of the first call. The callbacks registered
before, each with those that it registers, run in order inside that call, and then all who sleep are
woken; what comes later runs as it is registered, or does not go to sleep. Each callback sees the
token cancelled for that reason, whichever of them panic, cancel again or register others. -/
theorem callbacks_run_once (history : List CancelEvent) :
    ((run history).isCancelled = true ↔ ∃ reason, .call (.cancel reason) ∈ history) ∧
    (Uncancelled history → (run history).reason = none ∧ (run history).fired = [] ∧
      (run history).awake = []) ∧
    ∀ before reason after, Uncancelled before →
      history = before ++ .call (.cancel reason) :: after →
        (run history).reason = some reason ∧
        (run history).fired = marksOf reason (registered before ++ registered after) ∧
        (run history).asleep = [] ∧ (run history).awake = sleepers before ++ sleepers after ∧
        (run (before ++ [.call (.cancel reason)])).fired = marksOf reason (registered before) ∧
        (run (before ++ [.call (.cancel reason)])).awake = sleepers before ∧
        ∀ callback, (run (history ++ [.call (.register callback)])).fired =
          (run history).fired ++ marksOf reason [callback] := by
  refine ⟨isCancelled_run_iff, fun h => ?_, ?_⟩
  · rw [run_of_uncancelled h]
    exact ⟨rfl, rfl, rfl⟩
  · rintro before reason after hbefore rfl
    have hfirst : run (before ++ [.call (.cancel reason)]) = _ := run_of_cancelled hbefore
    refine ⟨?_, ?_, ?_, ?_, ?_, ?_, fun callback => ?_⟩
    · rw [run_of_cancelled hbefore]
    · rw [run_of_cancelled hbefore]
    · rw [run_of_cancelled hbefore]
    · rw [run_of_cancelled hbefore]
    · rw [hfirst]
      simp [registered]
    · rw [hfirst]
      simp [sleepers]
    · rw [run_append, run_of_cancelled hbefore, meet, make_register_of_isCancelled rfl]
      simp [marked, marksOf]

/-- A callback that cancels again, registers another one and panics as that one does. -/
def unruly : CancelHook := .mk 0 [.cancel "again", .register (.mk 1 [] true)] true

def unrulyStart : List CancelEvent :=
  [.call (.register unruly), .sleep 7, .call (.register (.mk 2 [] false))]

theorem callbacks_run_once_of_unruly :
    Uncancelled unrulyStart ∧
      (run (unrulyStart ++ [.call (.cancel "signal")])).fired =
        [⟨0, true, some "signal"⟩, ⟨1, true, some "signal"⟩, ⟨2, true, some "signal"⟩] ∧
      (run (unrulyStart ++ [.call (.cancel "signal")])).awake = [7] ∧
      (run (unrulyStart ++ .call (.cancel "signal") :: [.call (.cancel "late")])).reason =
        some "signal" := by
  have hstart : Uncancelled unrulyStart := by simp [Uncancelled, unrulyStart]
  obtain ⟨hreason, -, -, -, hfired, hawake, -⟩ :=
    (callbacks_run_once _).2.2 unrulyStart "signal" [.call (.cancel "late")] hstart rfl
  exact ⟨hstart, hfired.trans rfl, hawake.trans rfl, hreason⟩

end Cancellation

end MeshTestbed
