import MeshTestbed.Host.Programs
import MeshTestbed.Host.Shell.Reader
import MeshTestbed.Host.Shell.Session

namespace MeshTestbed.Shell

open Host (Outcome Voice)

def signalNames : List String :=
  ["HUP", "INT", "QUIT", "ILL", "TRAP", "ABRT", "BUS", "FPE", "KILL", "USR1", "SEGV", "USR2",
    "PIPE", "ALRM", "TERM", "16", "CHLD", "CONT", "STOP", "TSTP", "TTIN", "TTOU", "URG", "XCPU",
    "XFSZ", "VTALRM", "PROF", "WINCH", "POLL", "PWR", "SYS"]

def lastSignal : Nat := 64

/-- A signal by its name or number; zero is the end of the script where that is a condition. -/
def signal? (s : String) : Option Nat :=
  match Text.natOfDigits s.toList with
  | some n => if n ≤ lastSignal then some n else none
  | none =>
    let name := s.toUpper
    if name = "EXIT" then some 0 else (signalNames.findIdx? (· = name)).map (· + 1)

def signalName (n : Nat) : String :=
  if n = 0 then "EXIT" else (signalNames[n - 1]?).getD (Text.ofNat n)

def signalTitle? (n : Nat) : Option String :=
  match n with
  | 1 => some "Hangup"
  | 3 => some "Quit"
  | 4 => some "Illegal instruction"
  | 5 => some "Trace/breakpoint trap"
  | 6 => some "Aborted"
  | 7 => some "Bus error"
  | 8 => some "Floating point exception"
  | 9 => some "Killed"
  | 10 => some "User defined signal 1"
  | 11 => some "Segmentation fault"
  | 12 => some "User defined signal 2"
  | 14 => some "Alarm clock"
  | 15 => some "Terminated"
  | _ => none

/-- Signals that do not end a process, but for a trap. -/
def harmlessSignals : List Nat := [17, 18, 23, 28]

namespace Builtin

open ShellM

def number (fail : String → ShellM Nat) (s : String) : ShellM Nat :=
  match Text.natBelow (UInt32.size / 2) s.toList with
  | some n => return n
  | none => fail ("Illegal number: " ++ s)

def receive (signal : Nat) : ShellM Unit := do
  if signal = 0 || harmlessSignals.contains signal then return
  let traps := (← get).traps
  match if signal = 9 then none else traps.lookup signal with
  | some _ => modify fun s => { s with caught := some signal }
  | none => throw (.killed signal)

def killUsage : String :=
  "kill: Usage: kill [-s sigspec | -signum | -sigspec] [pid | job]... or\nkill -l [exitstatus]"

def killAll (signal : Nat) (targets : List String) : ShellM Unit := do
  setStatus 0
  targets.forM fun target => do
    let digits := if "-".isPrefixOf target then target.toList.drop 1 else target.toList
    match Text.natBelow (UInt32.size / 2) digits with
    | none =>
      complain 2 ("kill: Illegal number: " ++ String.ofList digits)
    | some process =>
      if process = processNumber || process = 0 then receive signal
      else complain 1 "kill: No such process\n"

def kill (args : List String) : ShellM Unit := do
  let send (signal : Nat) (targets : List String) : ShellM Unit :=
    if targets.isEmpty then complain 2 killUsage else killAll signal targets
  match args with
  | [] => complain 2 killUsage
  | "-l" :: codes =>
    let title (code : String) : String :=
      match Text.natOfDigits code.toList with
      | some n => signalName (if killedStatus 0 < n then n - killedStatus 0 else n)
      | none => code
    match codes.find? fun code => (Text.natOfDigits code.toList).isNone with
    | some code => complain 2 ("kill: Illegal number: " ++ code)
    | none => finish (.ofText (String.join (codes.map fun code => title code ++ "\n")))
  | "-s" :: name :: targets =>
    match signal? name with
    | some signal => send signal targets
    | none => complain 2 ("kill: invalid signal number or name: " ++ name)
  | first :: rest =>
    match first.toList with
    | '-' :: name =>
      match signal? (String.ofList name) with
      | some signal => send signal rest
      | none =>
        match name with
        | 's' :: name =>
          complain 2 ("kill: invalid signal number or name: " ++ String.ofList name)
        | _ => complain 2 ("kill: Illegal option -" ++ String.ofList (name.take 1))
    | _ => send 15 args

def assign (lead name value : String) : ShellM Unit := do
  if (← get).readOnly.contains name then fail 2 (lead ++ name ++ ": is read only")
  modify fun s =>
    let s := s.assign name value
    if s.hasOption 'a' then { s with exported := name :: s.exported } else s

def nameAndValue (arg : String) : String × Option String :=
  let name := arg.toList.takeWhile (· ≠ '=')
  (String.ofList name,
    if name.length < arg.length then some (String.ofList (arg.toList.drop (name.length + 1)))
    else none)

def declare (title : String) (mark : String → Session → Session) (args : List String) :
    ShellM Unit := do
  setStatus 0
  (args.filter (· ≠ "-p")).forM fun arg => do
    let (name, value) := nameAndValue arg
    if !Reader.isName name then fail 2 (title ++ ": " ++ name ++ ": bad variable name")
    if let some v := value then assign (title ++ ": ") name v
    modify (mark name)

def unset (args : List String) : ShellM Unit := do
  setStatus 0
  let functions := args.head? = some "-f"
  (args.filter fun a => a ≠ "-f" ∧ a ≠ "-v").forM fun name => do
    if functions then
      modify fun s => { s with functions := s.functions.filter (·.1 ≠ name) }
    else
      if !Reader.isName name then fail 2 ("unset: " ++ name ++ ": bad variable name")
      if (← get).readOnly.contains name then fail 2 ("unset: " ++ name ++ ": is read only")
      modify (Session.forget name)

def keep (args : List String) : ShellM Unit := do
  setStatus 0
  args.forM fun arg => do
    let (name, value) := nameAndValue arg
    match (← get).saved with
    | none => fail 2 "local: not in a function"
    | some saved =>
      modify fun s => { s with saved := some ((name, s.bindings.lookup name) :: saved) }
      if let some v := value then assign "local: " name v

def optionLetters : List (String × Char) :=
  [("errexit", 'e'), ("noglob", 'f'), ("ignoreeof", 'I'), ("interactive", 'i'), ("monitor", 'm'),
    ("noexec", 'n'), ("stdin", 's'), ("xtrace", 'x'), ("verbose", 'v'), ("vi", 'V'), ("emacs", 'E'),
    ("noclobber", 'C'), ("allexport", 'a'), ("notify", 'b'), ("nounset", 'u'), ("nolog", '\x00'),
    ("debug", '\x01')]

def set : List String → ShellM Unit
  | [] => setStatus 0
  | "--" :: args => modify fun s => { s with args, status := 0 }
  | "-" :: args => modify fun s =>
    let s := s.setOption false 'x'
    { s with args := if args.isEmpty then s.args else args, status := 0 }
  | arg :: rest => do
    match arg.toList with
    | sign :: letters =>
      if sign ≠ '-' && sign ≠ '+' then modify fun s => { s with args := arg :: rest, status := 0 }
      else if letters = ['o'] then
        match rest with
        | [] => setStatus 0
        | name :: rest =>
          match optionLetters.lookup name with
          | some letter =>
            modify (Session.setOption (sign = '-') letter)
            set rest
          | none =>
            fail 2 ("set: Illegal option " ++ String.ofList [sign] ++ "o " ++ name)
      else
        match letters.find? fun c => (optionLetters.find? (·.2 = c)).isNone with
        | some c => fail 2 ("set: Illegal option " ++ String.ofList [sign, c])
        | none =>
          modify fun s => letters.foldl (fun s c => s.setOption (sign = '-') c) s
          set rest
    | [] => modify fun s => { s with args := arg :: rest, status := 0 }

/-- A line of input; a backslash goes before a character that stands for itself, or before a line's
end that is none. Answers the bytes left and whether the line was complete. -/
def inputLine (raw : Bool) (fuel : Nat) (bytes : List UInt8) :
    List (UInt8 × Bool) × List UInt8 × Bool :=
  match fuel, bytes with
  | 0, _ | _, [] => ([], [], false)
  | _ + 1, 10 :: rest => ([], rest, true)
  | n + 1, b :: rest =>
    if b = 92 && !raw then
      match rest with
      | 10 :: rest => inputLine raw n rest
      | c :: rest =>
        let (line, left, complete) := inputLine raw n rest
        ((c, true) :: line, left, complete)
      | [] => ([], [], false)
    else
      let (line, left, complete) := inputLine raw n rest
      ((b, false) :: line, left, complete)

/-- The values of `count` variables that a line falls apart into; the last has all that is left. -/
def readFields (isGap : Glyph → Bool) : (count : Nat) → List Glyph → List String
  | 0, _ => []
  | 1, line => [String.ofList ((line.reverse.dropWhile isGap).reverse.map (·.1))]
  | n + 1, line =>
    let field := line.takeWhile (!isGap ·)
    let rest := (line.drop field.length).dropWhile isGap
    String.ofList (field.map (·.1)) :: readFields isGap n rest

def readLine (args : List String) : ShellM Unit := do
  let raw := args.contains "-r"
  match args.filter (· ≠ "-r") with
  | [] => complain 2 "read: arg count"
  | names =>
    let s ← get
    let (line, left, complete) := inputLine raw (s.input.length + 1) s.input
    -- Characters are put together from bytes that are escaped alike.
    let glyphs := (line.splitBy fun a b => a.2 == b.2).flatMap fun run =>
      (Text.decode (run.map (·.1))).toList.map fun c => (c, (run.head?.map (·.2)).getD false)
    let isGap (g : Glyph) : Bool := !g.2 && s.separators.contains g.1
    modify fun s => { s with input := left, status := if complete then 0 else 1 }
    let values := readFields isGap names.length (glyphs.dropWhile isGap)
    (names.zip values).forM fun (name, value) => assign "read: " name value

def pathOf (place : List String) : String := "/" ++ Text.joinWith "/" place

def changeDirectory (args : List String) : ShellM Unit := do
  let s ← get
  let old := pathOf s.files.cwd
  let (target, shown) := match args with
    | [] => ((s.bindings.lookup "HOME").getD homeDirectory, false)
    | "-" :: _ => ((s.bindings.lookup "OLDPWD").getD old, true)
    | path :: _ => (path, false)
  match s.files.locate target with
  | .ok place =>
    if s.files.node? place = some .directory then
      modify fun s => ({ s with files := { s.files with cwd := place } }).assign "OLDPWD" old
      finish (if shown then .ofText (pathOf place ++ "\n") else {})
    else complain 2 ("cd: can't cd to " ++ target)
  | .error _ => complain 2 ("cd: can't cd to " ++ target)

def leave (title : String) (how : Leave) (args : List String) : ShellM Unit := do
  if let code :: _ := args then
    setStatus ((← number (fun e => fail 2 (title ++ ": " ++ e)) code) % 256)
  throw how

def leaveLoops (title : String) (how : Nat → Leave) (args : List String) : ShellM Unit := do
  let illegal (e : String) : ShellM Nat := fail 2 (title ++ ": " ++ e)
  let count ← match args with
    | [] => pure 1
    | n :: _ => do
      let count ← number illegal n
      if count = 0 then illegal ("Illegal number: " ++ n) else pure count
  setStatus 0
  let loops := (← get).loops
  if loops ≠ 0 then throw (how (min count loops))

def shift (args : List String) : ShellM Unit := do
  let count ← match args with
    | [] => pure 1
    | n :: _ => number (fun e => fail 2 ("shift: " ++ e)) n
  if (← get).args.length < count then fail 2 "shift: can't shift that many"
  modify fun s => { s with args := s.args.drop count, status := 0 }

def trap (args : List String) : ShellM Unit := do
  setStatus 0
  match args with
  | [] =>
    let lines := (← get).traps.map fun (n, action) =>
      "trap -- '" ++ action ++ "' " ++ signalName n ++ "\n"
    finish (.ofText (String.join lines))
  | _ =>
    let (action, conditions) := match if args.head? = some "--" then args.drop 1 else args with
      | [condition] => ("-", [condition])
      | action :: conditions => (action, conditions)
      | [] => ("-", [])
    conditions.forM fun condition => do
      match signal? condition with
      | none =>
        modify fun s => { s.tell ("trap: " ++ condition ++ ": bad trap\n") with status := 1 }
      | some n =>
        modify fun s =>
          let rest := s.traps.filter (·.1 ≠ n)
          { s with traps := if action = "-" then rest else (n, action) :: rest }

def wait (args : List String) : ShellM Unit := do
  match args with
  | [] => setStatus 0
  | process :: _ =>
    let s ← get
    if some process = s.value? "!" then setStatus (s.beside.getD 127) else setStatus 127

def silent : List String :=
  [":", "true", "times", "jobs", "alias", "unalias", "hash", "ulimit", "fg", "bg"]

def running : List String := [".", "eval", "exec", "command", "type"]

def plain : List String :=
  ["false", "echo", "printf", "test", "[", "exit", "return", "break", "continue", "kill", "shift",
    "read", "set", "export", "readonly", "unset", "local", "trap", "wait", "umask", "cd", "chdir",
    "pwd"]

def names : List String := silent ++ running ++ plain

/-- Runs a command of the shell that runs no other; nothing if there is none of that name. -/
def run? (name : String) (args : List String) : Option (ShellM Unit) :=
  let speak (f : Voice → Outcome) : ShellM Unit := do
    finish (f { lead := (← get).opening ++ name ++ ": ", inShell := true })
  match name with
  | "false" => some (setStatus 1)
  | "echo" => some (speak fun v => Host.echo v args)
  | "printf" => some (speak fun v => Host.printf v args)
  | "test" => some do
    let files := (← get).files
    speak fun v => Host.test v files false args
  | "[" => some do
    let files := (← get).files
    speak fun v => Host.test v files true args
  | "exit" => some (leave "exit" .exit args)
  | "return" => some (leave "return" .fromFunction args)
  | "break" => some (leaveLoops "break" .breakLoop args)
  | "continue" => some (leaveLoops "continue" .nextTurn args)
  | "kill" => some (kill args)
  | "shift" => some (shift args)
  | "read" => some (readLine args)
  | "set" => some (set args)
  | "export" =>
    some (declare "export" (fun name s => { s with exported := name :: s.exported }) args)
  | "readonly" =>
    some (declare "readonly" (fun name s => { s with readOnly := name :: s.readOnly }) args)
  | "unset" => some (unset args)
  | "local" => some (keep args)
  | "trap" => some (trap args)
  | "wait" => some (wait args)
  | "umask" => some (finish (if args.isEmpty then .ofText "0022\n" else {}))
  | "cd" | "chdir" => some (changeDirectory args)
  | "pwd" => some do finish (.ofText (pathOf (← get).files.cwd ++ "\n"))
  | _ => if silent.contains name then some (setStatus 0) else none

end Builtin

end MeshTestbed.Shell
