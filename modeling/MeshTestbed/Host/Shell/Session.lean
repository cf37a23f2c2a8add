import MeshTestbed.Host.Outcome
import MeshTestbed.Host.Files
import MeshTestbed.Host.Shell.Arithmetic
import MeshTestbed.Host.Shell.Pattern
import MeshTestbed.Host.Shell.Word

/-!
What a shell knows while it runs. What is written goes into a log, each part with the place it was
written to, so that what a command prints can be taken out and put into a word or another command's
input.
-/

namespace MeshTestbed.Shell

open Host (Outcome)

inductive Sink where
  | stdout
  | stderr
  /-- The text taken at this depth of commands inside words. -/
  | capture (depth : Nat)
  | null
  | closed
  | file (path : String)
deriving DecidableEq

inductive Leave where
  | exit
  | killed (signal : Nat)
  | breakLoop (loops : Nat)
  | nextTurn (loops : Nat)
  | fromFunction
  | exhausted
deriving DecidableEq

structure Session where
  files : Files
  name : String
  args : List String := []
  bindings : List (String × String) := []
  exported : List String := []
  readOnly : List String := []
  functions : List (String × Command) := []
  /-- Values to go back to when a function ends; none outside functions. -/
  saved : Option (List (String × Option String)) := none
  traps : List (Nat × String) := []
  options : List Char := []
  status : Nat := 0
  /-- The status of the last command inside a word, if there was one. -/
  inner : Option Nat := none
  /-- The status of the last command that ran beside others. -/
  beside : Option Nat := none
  line : Nat := 1
  loops : Nat := 0
  caught : Option Nat := none
  /-- Whether somebody looks at the status, so that a failure does not end the script. -/
  tested : Bool := false
  input : List UInt8 := []
  sinks : List (Nat × Sink) := [(1, .stdout), (2, .stderr)]
  depth : Nat := 0
  written : List (Sink × List UInt8) := []

abbrev ShellM := ExceptT Leave (StateM Session)

def processNumber : Nat := 4242

def homeDirectory : String := "/root"

def killedStatus (signal : Nat) : Nat := 128 + signal

namespace Session

def sink (descriptor : Nat) (s : Session) : Sink := (s.sinks.lookup descriptor).getD .closed

def out (s : Session) : Sink := s.sink 1

def err (s : Session) : Sink := s.sink 2

def lead (descriptor : Nat) (sink : Sink) (s : Session) : Session :=
  { s with sinks := (descriptor, sink) :: s.sinks.filter (·.1 ≠ descriptor) }

def bytesTo (sink : Sink) (s : Session) : List UInt8 :=
  (s.written.filter (·.1 = sink)).flatMap (·.2)

def write (sink : Sink) (bytes : List UInt8) (s : Session) : Session :=
  match sink with
  | .null | .closed => s
  | .file path =>
    match s.files.write path bytes true with
    | .ok files => { s with files }
    | .error _ => s
  | sink => if bytes.isEmpty then s else { s with written := s.written ++ [(sink, bytes)] }

def value? (name : String) (s : Session) : Option String :=
  match name with
  | "?" => some (Text.ofNat s.status)
  | "#" => some (Text.ofNat s.args.length)
  | "$" => some (Text.ofNat processNumber)
  | "-" => some (String.ofList s.options)
  | "!" => s.beside.map fun _ => Text.ofNat (processNumber + 1)
  | "0" => some s.name
  | "*" | "@" => if s.args.isEmpty then none else some (Text.joinWith " " s.args)
  | _ =>
    match Text.natOfDigits name.toList with
    | some n => s.args[n - 1]?
    | none => s.bindings.lookup name

def value (name : String) (s : Session) : String := (s.value? name).getD ""

def assign (name value : String) (s : Session) : Session :=
  { s with bindings := (name, value) :: s.bindings.filter (·.1 ≠ name) }

def forget (name : String) (s : Session) : Session :=
  { s with
    bindings := s.bindings.filter (·.1 ≠ name)
    exported := s.exported.filter (· ≠ name) }

def restore (name : String) (value : Option String) (s : Session) : Session :=
  match value with
  | some v => s.assign name v
  | none => s.forget name

def hasOption (letter : Char) (s : Session) : Bool := s.options.contains letter

def setOption (on : Bool) (letter : Char) (s : Session) : Session :=
  let rest := s.options.filter (· ≠ letter)
  { s with options := if on then rest ++ [letter] else rest }

def opening (s : Session) : String := s.name ++ ": " ++ Text.ofNat s.line ++ ": "

def complaint (text : String) (s : Session) : String := s.opening ++ text ++ "\n"

def tell (text : String) (s : Session) : Session := s.write s.err (Text.encode text)

def finish (o : Outcome) (s : Session) : Session :=
  { (s.write s.out o.out).write s.err o.err with status := o.status }

def separators (s : Session) : List Char :=
  ((s.bindings.lookup "IFS").map String.toList).getD [' ', '\t', '\n']

end Session

namespace ShellM

/-- Runs a command in a changed session, and changes back however it ends. -/
def inside {α : Type} (enter : Session → Session) (back : (before after : Session) → Session)
    (m : ShellM α) : ShellM α :=
  ExceptT.mk fun s =>
    let (result, t) := m.run.run (enter s)
    (result, back s t)

def attempt (m : ShellM Unit) : ShellM (Option Leave) :=
  ExceptT.mk fun s =>
    match m.run.run s with
    | (.ok (), t) => (.ok none, t)
    | (.error leave, t) => (.ok (some leave), t)

def setStatus (status : Nat) : ShellM Unit := modify fun s => { s with status }

def finish (o : Outcome) : ShellM Unit := modify (Session.finish o)

def complain (status : Nat) (text : String) : ShellM Unit :=
  modify fun s => { s.tell (s.complaint text) with status }

def fail {α : Type} (status : Nat) (text : String) : ShellM α := do
  complain status text
  throw .exit

end ShellM

/-- A part of a word after its parameters are replaced. -/
inductive Part where
  | glyph (g : Glyph)
  | empty
  | gap
deriving DecidableEq

namespace Part

def quoted (s : String) : List Part := empty :: s.toList.map fun c => glyph (c, true)

def loose (separators : List Char) (s : String) : List Part :=
  s.toList.map fun c => if separators.contains c then gap else glyph (c, false)

def ofText (separators : List Char) (isQuoted : Bool) (s : String) : List Part :=
  if isQuoted then quoted s else loose separators s

/-- All parameters, each a field of its own. -/
def ofFields (separators : List Char) (isQuoted : Bool) : List String → List Part
  | [] => []
  | [s] => ofText separators isQuoted s
  | s :: rest => ofText separators isQuoted s ++ gap :: ofFields separators isQuoted rest

def split : List Part → List (List Part)
  | [] => [[]]
  | gap :: rest => [] :: split rest
  | p :: rest =>
    match split rest with
    | [] => [[p]]
    | head :: more => (p :: head) :: more

def glyphs (parts : List Part) : List Glyph :=
  parts.filterMap fun p =>
    match p with
    | glyph g => some g
    | empty => none
    | gap => some (' ', true)

def fields (parts : List Part) : List (List Glyph) :=
  ((split parts).filter fun p => !p.isEmpty).map glyphs

def text (parts : List Part) : String := String.ofList ((glyphs parts).map (·.1))

end Part

def patternOfGlyphs (glyphs : List Glyph) : List PatternItem :=
  patternOf (glyphs.length + 1) glyphs

def isWild (glyphs : List Glyph) : Bool :=
  glyphs.any fun g => g == ('*', false) || g == ('?', false) || g == ('[', false)

/-- The paths in a directory that names between slashes match; `shown` is what comes before them. -/
def matchPaths (files : Files) (here : List String) (shown : String) :
    List (List Glyph) → List String
  | [] => []
  | [last] =>
    ((files.names here).filter fun n => covers (patternOfGlyphs last) n.toList).map (shown ++ ·)
  | name :: rest =>
    if isWild name then
      ((files.names here).filter fun n => covers (patternOfGlyphs name) n.toList).flatMap fun n =>
        if files.node? (here ++ [n]) = some .directory then
          matchPaths files (here ++ [n]) (shown ++ n ++ "/") rest
        else []
    else
      let n := String.ofList (name.map (·.1))
      match files.walk here [n] with
      | .ok place =>
        if files.node? place = some .directory then matchPaths files place (shown ++ n ++ "/") rest
        else []
      | .error _ => []

def namesOf : List Glyph → List (List Glyph)
  | [] => [[]]
  | g :: rest =>
    match namesOf rest with
    | [] => [[g]]
    | head :: more => if g.1 = '/' then [] :: head :: more else (g :: head) :: more

def pathsOf (files : Files) (field : List Glyph) : List String :=
  let text := String.ofList (field.map (·.1))
  if !isWild field then [text]
  else
    let found :=
      match namesOf field with
      | [] :: rest => matchPaths files [] "/" rest
      | names => matchPaths files files.cwd "" names
    if found.isEmpty then [text] else found

end MeshTestbed.Shell
