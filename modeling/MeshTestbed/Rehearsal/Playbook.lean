import MeshTestbed.Run.Session

/-!
A scripted cluster for rehearsals. An entry answers the commands that have all its tokens among
their arguments; it gives its responses in order and repeats the last.
-/

namespace MeshTestbed

inductive Responses where
  | outputs (next : Completion) (later : List Completion)
  | startupFailure
deriving DecidableEq

structure PlaybookEntry where
  tokens : List String
  responses : Responses
deriving DecidableEq

abbrev Playbook := List PlaybookEntry

namespace Responses

def ofList? : List Completion → Option Responses
  | [] => none
  | o :: os => some (outputs o os)

def take : Responses → Option Completion × Responses
  | outputs o [] => (some o, outputs o [])
  | outputs o (next :: later) => (some o, outputs next later)
  | startupFailure => (none, startupFailure)

end Responses

namespace PlaybookEntry

def accepts (e : PlaybookEntry) (argv : Argv) : Bool := e.tokens.all argv.contains

end PlaybookEntry

namespace Playbook

/-- Whether `e` answers rather than an entry before it: with as many tokens the later one does. -/
def betters (e : PlaybookEntry) : Option (Nat × PlaybookEntry) → Bool
  | none => true
  | some (_, best) => best.tokens.length ≤ e.tokens.length

def selectFrom (argv : Argv) (position : Nat) (best : Option (Nat × PlaybookEntry)) :
    Playbook → Option (Nat × PlaybookEntry)
  | [] => best
  | e :: rest =>
    selectFrom argv (position + 1)
      (if e.accepts argv && betters e best then some (position, e) else best) rest

def select (book : Playbook) (argv : Argv) : Option (Nat × PlaybookEntry) :=
  selectFrom argv 0 none book

def scriptedFailure : String := "scripted startup failure"

/-- Answers a command; one that no entry accepts succeeds silently. -/
def answer (book : Playbook) (c : Call) : Except CommandFailure Completion × Playbook :=
  match c.argv with
  | [] => (.error .emptyArgv, book)
  | program :: _ =>
    match book.select c.argv with
    | none => (.ok {}, book)
    | some (position, e) =>
      let (output, left) := e.responses.take
      let book := book.set position { e with responses := left }
      match output with
      | some o => (.ok o, book)
      | none => (.error (.startup program scriptedFailure), book)

def runner : Runner Playbook where
  reply book c :=
    let (result, book) := book.answer c
    ({ result }, book)

end Playbook

namespace Call

def hasTokens (tokens : List String) (c : Call) : Bool := tokens.all c.argv.contains

def count (tokens : List String) (calls : List Call) : Nat := calls.countP (hasTokens tokens)

def firstIndex? (tokens : List String) (calls : List Call) : Option Nat :=
  calls.findIdx? (hasTokens tokens)

end Call

def Reply.sleptFor (r : Reply) : Reply :=
  { r with duration := min r.duration Session.longestSleep }

namespace Runner

variable {σ : Type}

def delayed (ms : Nat) (r : Runner σ) : Runner σ where
  reply memory c :=
    let (reply, memory) := r.reply memory c
    ({ reply with duration := min ms Session.longestSleep + reply.duration }, memory)
  sleepWins := r.sleepWins

/-- The run is cancelled during the command of that number, the first being number one. -/
def interruptedAt (number : Nat) (reason : String) (r : Runner σ) : Runner (Nat × σ) where
  reply := fun (made, memory) c =>
    let (reply, memory) := r.reply memory c
    let reply := if made + 1 = number then { reply with interrupt := some reason } else reply
    (reply, (made + 1, memory))
  sleepWins := r.sleepWins

def ofReplies (last : Reply) : Runner (List Reply) where
  reply
    | [], _ => (last.sleptFor, [])
    | [r], _ => (r.sleptFor, [r])
    | r :: next :: later, _ => (r.sleptFor, next :: later)

end Runner

end MeshTestbed
