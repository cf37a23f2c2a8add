import MeshTestbed.Host.Shell.Frame
import MeshTestbed.Host.Shell.Invocation
import MeshTestbed.Host.Shell.Lookup
import MeshTestbed.Host.Shell.Parameter
import MeshTestbed.Host.Shell.Redirection

/-!
Runs of scripts. Every run is bounded; one that would be longer leaves as exhausted.
-/

namespace MeshTestbed.Shell

open Host (Outcome)
open ShellM

mutual

def expand (fuel : Nat) (word : Word) : ShellM (List Part) :=
  match fuel with
  | 0 => throw .exhausted
  | n + 1 => do
    let (home, word) ← expandTilde word
    return home ++ (← expandPieces n word)

def expandPieces (fuel : Nat) (word : Word) : ShellM (List Part) :=
  match fuel, word with
  | 0, _ => throw .exhausted
  | _, [] => return []
  | n + 1, piece :: rest => do
    let head ← expandPiece n piece
    return head ++ (← expandPieces n rest)

def expandPiece (fuel : Nat) (piece : Piece) : ShellM (List Part) :=
  match fuel with
  | 0 => throw .exhausted
  | n + 1 => do
    match piece with
    | .text true s => return Part.quoted s
    | .text false s => return Part.loose [' ', '\t', '\n'] s
    | .parameter quoted name rule word =>
      let s ← get
      let value := s.value? name
      let split := Part.ofText s.separators quoted
      match rule with
      | .value => valueParts quoted name
      | .length => return split (Text.ofNat (s.value name).length)
      | .default orEmpty =>
        if isMissing orEmpty value then expand n word else valueParts quoted name
      | .assign orEmpty =>
        if isMissing orEmpty value then
          let text ← expandText n word
          Builtin.assign "" name text
          return split text
        else valueParts quoted name
      | .demand orEmpty =>
        if isMissing orEmpty value then
          let text ← expandText n word
          let standard := "parameter not set" ++ if orEmpty then " or null" else ""
          fail 2 (name ++ ": " ++ if text.isEmpty then standard else text)
        else valueParts quoted name
      | .instead orEmpty => if isMissing orEmpty value then return [] else expand n word
      | .trim atStart longest =>
        let pattern := patternOfGlyphs (Part.glyphs (← expand n word))
        let text := trimmedBy atStart longest pattern (s.value name).toList
        return split (String.ofList text)
      | .bad => fail 2 "Bad substitution"
    | .output quoted body =>
      let text ← capture n body
      return Part.ofText (← get).separators quoted text
    | .arithmetic quoted expression =>
      let text ← calculate (← expandText n expression)
      return Part.ofText (← get).separators quoted text

def expandText (fuel : Nat) (word : Word) : ShellM String :=
  match fuel with
  | 0 => throw .exhausted
  | n + 1 => return Part.text (← expand n word)

def expandAll (fuel : Nat) (words : List Word) : ShellM (List String) :=
  match fuel, words with
  | 0, _ => throw .exhausted
  | _, [] => return []
  | n + 1, word :: rest => do
    let fields := Part.fields (← expand n word)
    let s ← get
    let texts := fields.flatMap fun f =>
      if s.hasOption 'f' then [String.ofList (f.map (·.1))] else pathsOf s.files f
    return texts ++ (← expandAll n rest)

def capture (fuel : Nat) (body : Command) : ShellM String :=
  match fuel with
  | 0 => throw .exhausted
  | n + 1 => do
    let s ← get
    let sink := Sink.capture (s.depth + 1)
    set { s.lead 1 sink with depth := s.depth + 1 }
    subshell n (execute n body)
    let t ← get
    set { t with
      sinks := s.sinks, depth := s.depth, status := s.status, inner := some t.status
      written := t.written.filter (·.1 ≠ sink) }
    let text := (Text.decode (t.bytesTo sink)).toList.reverse.dropWhile (· = '\n')
    return String.ofList text.reverse

def subshell (fuel : Nat) (m : ShellM Unit) : ShellM Unit :=
  match fuel with
  | 0 => throw .exhausted
  | n + 1 => do
    let before ← get
    set { before with traps := [], loops := 0 }
    match ← attempt m with
    | some (.killed signal) => throw (.killed signal)
    | some .exhausted => throw .exhausted
    | _ => exitTrap n
    modify fun t =>
      { before with
        files := { t.files with cwd := before.files.cwd }
        status := t.status, input := t.input, written := t.written }

/-- Runs what is to be run at the end of a script. The status stays, unless it ends with another. -/
def exitTrap (fuel : Nat) : ShellM Unit :=
  match fuel with
  | 0 => throw .exhausted
  | n + 1 => do
    let s ← get
    match s.traps.lookup 0 with
    | none => return
    | some action =>
      set { s with traps := s.traps.filter (·.1 ≠ 0), tested := true }
      match ← attempt (runText n "" action) with
      | some (.killed signal) => throw (.killed signal)
      | some .exhausted => throw .exhausted
      | some .exit => return
      | _ => setStatus s.status

def runText (fuel : Nat) (lead text : String) : ShellM Unit :=
  match fuel with
  | 0 => throw .exhausted
  | n + 1 => runLines n lead { rest := text.toList }

def runLines (fuel : Nat) (lead : String) (source : Source) : ShellM Unit :=
  match fuel with
  | 0 => throw .exhausted
  | n + 1 => do
    match Reader.line?.run source with
    | .error c =>
      modify fun s => { s with line := c.line }
      fail 2 (lead ++ c.text)
    | .ok (none, _) => return
    | .ok (some c, rest) =>
      execute n c
      runLines n lead rest

def runScript (fuel : Nat) (name : String) (args : List String) (options : List Char)
    (input : List UInt8) (script : String) : ShellM (Option Nat) :=
  match fuel with
  | 0 => throw .exhausted
  | n + 1 => do
    let before ← get
    set
      { files := before.files, name, args, options, input
        bindings := before.bindings.filter fun b => before.exported.contains b.1
        exported := before.exported, sinks := before.sinks, depth := before.depth
        written := before.written : Session }
    let how ← attempt (runText n "" script)
    let how ← match how with
      | some (.killed _) | some .exhausted => pure how
      | _ => attempt (exitTrap n)
    modify fun t =>
      { before with
        files := { t.files with cwd := before.files.cwd }
        status := t.status, input := t.input, written := t.written }
    match how with
    | some (.killed signal) => return some signal
    | some .exhausted => throw .exhausted
    | _ => return none

def runShell (fuel : Nat) (name : String) (args : List String) : ShellM (Option Nat) :=
  match fuel with
  | 0 => throw .exhausted
  | n + 1 => do
    let refuse (text : String) : ShellM (Option Nat) := do
      finish (.failure 2 (name ++ ": 0: " ++ text ++ "\n"))
      return none
    let s ← get
    match ShellCall.ofArguments args with
    | .error option => refuse ("Illegal option " ++ option)
    | .ok call =>
      match call.given, call.fromInput, call.operands with
      | true, _, [] => refuse "-c requires an argument"
      | true, _, script :: rest =>
        runScript n (rest.headD name) (rest.drop 1) call.options s.input script
      | false, true, operands => runScript n name operands call.options [] (Text.decode s.input)
      | false, false, [] => runScript n name [] call.options [] (Text.decode s.input)
      | false, false, path :: rest =>
        match s.files.readBytes path with
        | .ok bytes => runScript n path rest call.options s.input (Text.decode bytes)
        | .error .isDirectory => runScript n path rest call.options s.input ""
        | .error .notFound => refuse ("cannot open " ++ path ++ ": No such file")
        | .error e => refuse ("cannot open " ++ path ++ ": " ++ e.words)

/-- Runs a program; `outer` is where the shell tells which signal ended it. -/
def runProgram (fuel : Nat) (outer : Sink) (lead name : String) (args : List String) :
    ShellM Unit :=
  match fuel with
  | 0 => throw .exhausted
  | n + 1 => do
    let s ← get
    match Host.locateProgram s.files name with
    | .error e =>
      if e = .notFound || e = .notDirectory then complain 127 (lead ++ name ++ ": not found")
      else
        let isRefused := e = .permissionDenied && name.toList.contains '/'
        complain (if isRefused then 126 else 127) (lead ++ name ++ ": " ++ e.words)
    | .ok program =>
      match Host.program? s.files s.input name program args with
      | some (o, files) =>
        let input := if Host.drains program args then [] else s.input
        set { s with files, input }
        finish o
      | none =>
        match ← runShell n name args with
        | none => return
        | some signal =>
          let title := ((signalTitle? signal).map (· ++ "\n")).getD ""
          modify fun s => { s.write outer (Text.encode title) with status := killedStatus signal }

def source (fuel : Nat) (args : List String) : ShellM Unit :=
  match fuel, args with
  | 0, _ => throw .exhausted
  | _, [] => setStatus 0
  | n + 1, path :: _ => do
    if !path.toList.contains '/' then fail 2 (".: " ++ path ++ ": not found")
    match (← get).files.readBytes path with
    | .error .isDirectory => setStatus 0
    | .error e =>
      let words := if e = .notFound then "No such file" else e.words
      fail 2 (".: cannot open " ++ path ++ ": " ++ words)
    | .ok bytes =>
      setStatus 0
      match ← attempt (runText n "" (Text.decode bytes)) with
      | none | some .fromFunction => return
      | some how => throw how

/-- Runs a command by the fields of its words; `direct` passes over functions. -/
def runNamed (fuel : Nat) (outer : Sink) (direct : Bool) (name : String) (args : List String) :
    ShellM Unit :=
  match fuel with
  | 0 => throw .exhausted
  | n + 1 => do
    let function := (← get).functions.lookup name
    match if direct then none else function with
    | some body => inFunction args (execute n body)
    | none =>
      match name, args with
      | "eval", _ =>
        let text := Text.joinWith " " args
        if Text.isBlankText text then setStatus 0 else runText n "eval: " text
      | ".", _ => source n args
      | "exec", [] => setStatus 0
      | "exec", program :: rest =>
        runProgram n outer "exec: " program rest
        throw .exit
      | "command", [] => setStatus 0
      | "command", "-v" :: names => describe false (names.take 1)
      | "command", "-V" :: names => describe true (names.take 1)
      | "command", command :: rest => runNamed n outer true command rest
      | "type", _ => describe true args
      | _, _ =>
        match Builtin.run? name args with
        | some run => run
        | none => runProgram n outer "" name args

def answerSignal (fuel : Nat) : ShellM Unit :=
  match fuel with
  | 0 => throw .exhausted
  | n + 1 => do
    let s ← get
    match s.caught with
    | none => return
    | some signal =>
      set { s with caught := none }
      if let some action := s.traps.lookup signal then
        runText n "" action
        setStatus s.status

def redirectAll (fuel : Nat) (rs : List Redirect) : ShellM (Option RedirectFault) :=
  match fuel, rs with
  | 0, _ => throw .exhausted
  | _, [] => return none
  | n + 1, .mk descriptor kind target :: rest => do
    let text ← expandText n target
    match redirect descriptor kind text (← get) with
    | .ok s =>
      set s
      redirectAll n rest
    | .error fault => return some fault

/-- Runs a command with descriptors of its own. A fault ends the script if `special`. -/
def withRedirects (fuel : Nat) (rs : List Redirect) (special : Bool) (m : ShellM Unit) :
    ShellM Unit :=
  match fuel with
  | 0 => throw .exhausted
  | n + 1 =>
    let ownInput := rs.any fun | .mk descriptor _ _ => descriptor = 0
    inside id
      (fun before s =>
        { s with
          sinks := before.sinks, input := if ownInput then before.input else s.input })
      do
        match ← redirectAll n rs with
        | none => m
        | some fault =>
          complain 2 fault.text
          if special || fault.fatal then throw .exit

def assignAll (fuel : Nat) (given : List (String × Word)) : ShellM (List String) :=
  match fuel, given with
  | 0, _ => throw .exhausted
  | _, [] => return []
  | n + 1, (name, word) :: rest => do
    let text ← expandText n word
    Builtin.assign "" name text
    return (name ++ "=" ++ text) :: (← assignAll n rest)

/-- Runs a simple command by its fields, with variables that are set for it alone unless it is a
special one. -/
def runSimple (fuel : Nat) (outer : Sink) (given : List (String × Word)) (fields : List String) :
    ShellM Unit :=
  match fuel, fields with
  | 0, _ => throw .exhausted
  | n + 1, [] => do
    let assigned ← assignAll n given
    if !assigned.isEmpty then trace assigned
    setStatus ((← get).inner.getD 0)
  | n + 1, name :: args => do
    let names := given.map (·.1)
    let back (before s : Session) : Session :=
      if specialBuiltins.contains name then s
      else
        let s := names.foldl (fun s name => s.restore name (before.bindings.lookup name)) s
        if names.isEmpty then s else { s with exported := before.exported }
    inside id back do
      let assigned ← assignAll n given
      trace (assigned ++ fields)
      modify fun s => { s with exported := names ++ s.exported }
      runNamed n outer false name args

def execute (fuel : Nat) (c : Command) : ShellM Unit :=
  match fuel with
  | 0 => throw .exhausted
  | n + 1 => do
    match c with
    | .simple line given words rs =>
      modify fun s => { s with line, inner := none }
      let fields ← expandAll n words
      let outer := (← get).err
      if fields = ["exec"] then
        match ← redirectAll n rs with
        | none => setStatus 0
        | some fault => fail 2 fault.text
      else
        let special := (fields.head?.map specialBuiltins.contains).getD false
        withRedirects n rs special (runSimple n outer given fields)
      answerSignal n
      checkFailure
    | .pipeline parts =>
      pipe n parts
      checkFailure
    | .negation body =>
      looked (execute n body)
      modify fun s => { s with status := if s.status = 0 then 1 else 0 }
    | .both first second =>
      looked (execute n first)
      if (← get).status = 0 then execute n second
    | .either first second =>
      looked (execute n first)
      if (← get).status ≠ 0 then execute n second
    | .series parts => executeAll n parts
    | .background body =>
      let input := (← get).input
      modify fun s => { s with input := [] }
      subshell n (execute n body)
      modify fun s => { s with input, beside := some s.status, status := 0 }
    | .branch cases otherwise => runBranches n cases otherwise
    | .choice subject cases =>
      let text ← expandText n subject
      setStatus 0
      runCases n text.toList cases
    | .loop untilTrue condition body => inLoop (runLoop n untilTrue condition body 0)
    | .each name words body =>
      let values ← match words with
        | some words => expandAll n words
        | none => pure (← get).args
      setStatus 0
      inLoop (runEach n name values body)
    | .define name body =>
      modify fun s =>
        { s with functions := (name, body) :: s.functions.filter (·.1 ≠ name), status := 0 }
    | .subshell body =>
      subshell n (execute n body)
      checkFailure
    | .redirected line body rs =>
      modify fun s => { s with line }
      withRedirects n rs false (execute n body)
      checkFailure

def executeAll (fuel : Nat) (parts : List Command) : ShellM Unit :=
  match fuel, parts with
  | 0, _ => throw .exhausted
  | _, [] => return
  | n + 1, first :: rest => do
    execute n first
    executeAll n rest

def pipe (fuel : Nat) (parts : List Command) : ShellM Unit :=
  match fuel, parts with
  | 0, _ => throw .exhausted
  | _, [] => return
  | n + 1, [last] => subshell n (execute n last)
  | n + 1, first :: rest => do
    let s ← get
    let sink := Sink.capture (s.depth + 1)
    set { s.lead 1 sink with depth := s.depth + 1 }
    subshell n (execute n first)
    let t ← get
    set { s with
      files := t.files, input := t.bytesTo sink, written := t.written.filter (·.1 ≠ sink) }
    pipe n rest
    modify fun u => { u with input := t.input }

def runBranches (fuel : Nat) (cases : List (Command × Command)) (otherwise : Option Command) :
    ShellM Unit :=
  match fuel, cases with
  | 0, _ => throw .exhausted
  | n + 1, [] =>
    match otherwise with
    | some body => execute n body
    | none => setStatus 0
  | n + 1, (condition, body) :: rest => do
    looked (execute n condition)
    if (← get).status = 0 then execute n body else runBranches n rest otherwise

def matchesAny (fuel : Nat) (text : List Char) (patterns : List Word) : ShellM Bool :=
  match fuel, patterns with
  | 0, _ => throw .exhausted
  | _, [] => return false
  | n + 1, pattern :: rest => do
    let items := patternOfGlyphs (Part.glyphs (← expand n pattern))
    if covers items text then return true else matchesAny n text rest

def runCases (fuel : Nat) (text : List Char) (cases : List (List Word × Command)) : ShellM Unit :=
  match fuel, cases with
  | 0, _ => throw .exhausted
  | _, [] => return
  | n + 1, (patterns, body) :: rest => do
    if ← matchesAny n text patterns then execute n body else runCases n text rest

def runLoop (fuel : Nat) (untilTrue : Bool) (condition body : Command) (status : Nat) :
    ShellM Unit :=
  match fuel with
  | 0 => throw .exhausted
  | n + 1 => do
    if ← turn (looked (execute n condition)) then
      if ((← get).status = 0) = untilTrue then setStatus status
      else if ← turn (execute n body) then
        runLoop n untilTrue condition body (← get).status

def runEach (fuel : Nat) (name : String) (values : List String) (body : Command) : ShellM Unit :=
  match fuel, values with
  | 0, _ => throw .exhausted
  | _, [] => return
  | n + 1, value :: rest => do
    Builtin.assign "" name value
    if ← turn (execute n body) then runEach n name rest body

end

def maxSteps : Nat := 10000

end MeshTestbed.Shell
