import MeshTestbed.Run.Event

/-!
The session of a run: a clock that moves only while a command or a sleep takes time, the
cancellation, and a log of the commands handed to the runner and of the events told. A session may
start at any reading of the clock.
-/

namespace MeshTestbed

structure Reply where
  result : Except CommandFailure Completion
  /-- Milliseconds until the reply. -/
  duration : Nat := 0
  /-- The reason of a cancellation requested just before the reply. -/
  interrupt : Option String := none

structure Runner (σ : Type) where
  reply : σ → Call → Reply × σ
  /-- Whether a sleep that ends at the instant of the cancellation is noticed before it. -/
  sleepWins : Nat → Bool := fun _ => true

structure LoggedCall where
  call : Call
  startedAt : Nat
  cancelled : Bool
deriving DecidableEq

structure Session (σ : Type) where
  memory : σ
  /-- What the clock reads, in milliseconds. -/
  now : Nat := 0
  cancelled : Option String := none
  /-- A cancellation still to come: its instant and reason. -/
  timer : Option (Nat × String) := none
  /-- The commands so far, the latest first. -/
  log : List LoggedCall := []
  events : List Event := []
  /-- The time of day when the clock reads zero. -/
  origin : Stamp := ⟨0, 0, 0⟩

inductive Fault where
  | deadlineOverflow
  | queryOverflow
deriving DecidableEq

abbrev RunM (σ : Type) := ExceptT Fault (StateM (Session σ))

namespace Session

variable {σ : Type}

def calls (s : Session σ) : List Call := (s.log.map (·.call)).reverse

def cancel (reason : String) (s : Session σ) : Session σ :=
  { s with cancelled := s.cancelled.or (some reason) }

def moveTo (t : Nat) (s : Session σ) : Session σ :=
  match s.timer with
  | some (due, reason) =>
    if due ≤ t then { s.cancel reason with now := t, timer := none } else { s with now := t }
  | none => { s with now := t }

/-- No sleep is longer than thirty years. -/
def longestSleep : Nat := 30 * 365 * 86400 * 1000

def cancelAfter (ms : Nat) (reason : String) (s : Session σ) : Session σ :=
  { s with timer := some (s.now + min ms longestSleep, reason) }

def advance (ms : Nat) (s : Session σ) : Session σ :=
  if ms = 0 then s else s.moveTo (s.now + ms)

def call (runner : Runner σ) (c : Call) (s : Session σ) :
    Except CommandFailure Completion × Session σ :=
  let (reply, memory) := runner.reply s.memory c
  let s := { s with memory, log := ⟨c, s.now, s.cancelled.isSome⟩ :: s.log }.advance reply.duration
  (reply.result,
    match reply.interrupt with
    | none => s
    | some reason => s.cancel reason)

/-- Sleeps unless the cancellation comes first; answers the reason if it did. -/
def sleep (runner : Runner σ) (ms : Nat) (s : Session σ) : Option String × Session σ :=
  let wake := s.now + min ms longestSleep
  match s.cancelled, s.timer with
  | some reason, _ => (if ms = 0 && runner.sleepWins s.now then none else some reason, s)
  | none, some (due, reason) =>
    if due < wake then (some reason, s.moveTo (max s.now due))
    else if due = wake then
      (if runner.sleepWins wake then none else some reason, s.moveTo wake)
    else (none, s.moveTo wake)
  | none, none => (none, s.moveTo wake)

def stamp (s : Session σ) : Stamp := s.origin.addMillis s.now

/-- The last instant that the clock is assumed to show, in seconds of its own reading, whatever that
was when the session started. -/
def horizonSecs : Nat := UInt64.size / 2 - 1

def canWait (timeout : Span) (s : Session σ) : Bool :=
  s.now * 1000000 + timeout.toNanos < horizonSecs * 1000000000

end Session

namespace RunM

variable {σ : Type}

def call (runner : Runner σ) (c : Call) : RunM σ (Except CommandFailure Completion) :=
  modifyGet fun s => s.call runner c

def sleep (runner : Runner σ) (interval : Span) : RunM σ (Option String) :=
  modifyGet fun s => s.sleep runner interval.ceilMillis

/-- Observers are taken not to cancel: a cancellation comes with time or with a reply. -/
def tell (e : Event) : RunM σ Unit :=
  modify fun s => { s with events := s.events ++ [e] }

def stamp : RunM σ Stamp := return (← get).stamp

def cancelled : RunM σ (Option String) := return (← get).cancelled

def cancelReason : RunM σ String := return (← get).cancelled.getD "cancelled"

end RunM

end MeshTestbed
