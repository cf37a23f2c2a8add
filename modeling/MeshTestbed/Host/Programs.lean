import MeshTestbed.Host.Filters
import MeshTestbed.Host.Printf
import MeshTestbed.Host.Test

namespace MeshTestbed.Host

/-- Waits take no time here, but must be well spelled. -/
def sleep (v : Voice) (args : List String) : Outcome :=
  let isInterval (s : String) : Bool :=
    let cs := s.toList
    let cs := if (cs.getLast?.map ['s', 'm', 'h', 'd'].contains).getD false then cs.dropLast else cs
    !cs.isEmpty && cs.any Text.isDigit && cs.all (fun c => Text.isDigit c || c = '.') &&
      (cs.filter (· = '.')).length ≤ 1
  if args.isEmpty then v.missingOperand
  else match args.find? fun s => !isInterval s with
    | some s => v.misuse 1 ("invalid time interval " ++ inQuotes s)
    | none => {}

def baseName (v : Voice) (args : List String) : Outcome :=
  let bare (path : String) : List Char := (path.toList.reverse.dropWhile (· = '/')).reverse
  let last (path : String) : List Char :=
    let name := ((bare path).reverse.takeWhile (· ≠ '/')).reverse
    if name.isEmpty && !path.isEmpty then ['/'] else name
  match args with
  | [] => v.missingOperand
  | [path] => .ofText (String.ofList (last path) ++ "\n")
  | [path, ending] =>
    let name := last path
    let ending := ending.toList
    let name :=
      if ending.isSuffixOf name && ending.length < name.length then
        name.take (name.length - ending.length)
      else name
    .ofText (String.ofList name ++ "\n")
  | _ :: _ :: extra :: _ => v.misuse 1 ("extra operand " ++ inQuotes extra)

def directoryName (v : Voice) (args : List String) : Outcome :=
  let trim (cs : List Char) : List Char := (cs.reverse.dropWhile (· = '/')).reverse
  let parent (path : String) : String :=
    let cs := trim path.toList
    let head := (cs.reverse.dropWhile (· ≠ '/')).reverse
    if head.isEmpty then (if cs.isEmpty && !path.isEmpty then "/" else ".")
    else if (trim head).isEmpty then "/"
    else String.ofList (trim head)
  if args.isEmpty then v.missingOperand
  else .ofText (String.join (args.map fun path => parent path ++ "\n"))

def tee (v : Voice) (files : Files) (input : List UInt8) (args : List String) : Outcome × Files :=
  match Arguments.read ['a', 'i'] [] args with
  | .error e => (v.misuse 1 e, files)
  | .ok a =>
    a.operands.foldl
      (fun (o, files) name =>
        match files.write name input (a.has 'a') with
        | .ok files => (o, files)
        | .error e =>
          ({ o with err := o.err ++ Text.encode (v.line (name ++ ": " ++ e.words)), status := 1 },
            files))
      (({ out := input } : Outcome), files)

def changeEach (v : Voice) (change : Files → String → Except String Files) (files : Files)
    (operands : List String) : Outcome × Files :=
  if operands.isEmpty then (v.missingOperand, files)
  else operands.foldl
    (fun (o, files) path =>
      match change files path with
      | .ok files => (o, files)
      | .error e => ({ o with err := o.err ++ Text.encode (v.line e), status := 1 }, files))
    (({} : Outcome), files)

def touch (v : Voice) (files : Files) (args : List String) : Outcome × Files :=
  match Arguments.read ['a', 'c', 'm'] [] args with
  | .error e => (v.misuse 1 e, files)
  | .ok a =>
    changeEach v
      (fun files path =>
        if (files.find path).toOption.isSome then .ok files
        else (files.write path [] true).mapError fun e =>
          "cannot touch " ++ inQuotes path ++ ": " ++ e.words)
      files a.operands

def makeDirectory (v : Voice) (files : Files) (args : List String) : Outcome × Files :=
  match Arguments.read ['p'] [] args with
  | .error e => (v.misuse 1 e, files)
  | .ok a =>
    let refusal (path words : String) : String :=
      "cannot create directory " ++ inQuotes path ++ ": " ++ words
    changeEach v
      (fun files path =>
        if a.has 'p' then .ok (files.addDirectory path)
        else if (files.find path).toOption.isSome then .error (refusal path "File exists")
        else match files.locate path with
          | .ok place =>
            if files.node? place.dropLast = some .directory then .ok (files.put place .directory)
            else .error (refusal path FileError.notFound.words)
          | .error e => .error (refusal path e.words))
      files a.operands

def remove (v : Voice) (files : Files) (args : List String) : Outcome × Files :=
  match Arguments.read ['f', 'r', 'R'] [] args with
  | .error e => (v.misuse 1 e, files)
  | .ok a =>
    if a.has 'f' && a.operands.isEmpty then ({}, files)
    else
      let refusal (path words : String) : String :=
        "cannot remove " ++ inQuotes path ++ ": " ++ words
      changeEach v
        (fun files path =>
          match files.locate path, files.find path with
          | .ok place, .ok node =>
            if node = .directory && !(a.has 'r' || a.has 'R') then
              .error (refusal path FileError.isDirectory.words)
            else .ok (files.remove place)
          | _, .error e | .error e, _ =>
            if a.has 'f' then .ok files else .error (refusal path e.words))
        files a.operands

def listFiles (v : Voice) (files : Files) (args : List String) : Outcome :=
  match Arguments.read ['1', 'a', 'A'] [] args with
  | .error e => v.misuse 2 e
  | .ok a =>
    (if a.operands.isEmpty then ["."] else a.operands).foldl
      (fun o path =>
        match files.locate path, files.find path with
        | .ok place, .ok .directory =>
          { o with out := o.out ++ Text.encode (String.join ((files.names place).map (· ++ "\n"))) }
        | .ok _, .ok _ => { o with out := o.out ++ Text.encode (path ++ "\n") }
        | _, .error e | .error e, _ =>
          let text := "cannot access " ++ inQuotes path ++ ": " ++ e.words
          { o with err := o.err ++ Text.encode (v.line text), status := 2 })
      {}

/-- Runs a program other than the shell, by the name that it is called by. -/
def program? (files : Files) (input : List UInt8) (called name : String) (args : List String) :
    Option (Outcome × Files) :=
  let v := Voice.ofProgram called
  let only (o : Outcome) : Option (Outcome × Files) := some (o, files)
  match name with
  | "true" => only {}
  | "false" => only { status := 1 }
  | "echo" => only (echo v args)
  | "printf" => only (printf v args)
  | "cat" => only (cat v files input args)
  | "sleep" => only (sleep v args)
  | "test" => only (test v files false args)
  | "[" => only (test v files true args)
  | "head" => only (cut v true files input args)
  | "tail" => only (cut v false files input args)
  | "wc" => only (count v files input args)
  | "tr" => only (transliterate v input args)
  | "sort" => only (sortLines v files input args)
  | "seq" => only (sequence v args)
  | "basename" => only (baseName v args)
  | "dirname" => only (directoryName v args)
  | "ls" => only (listFiles v files args)
  | "tee" => some (tee v files input args)
  | "touch" => some (touch v files args)
  | "mkdir" => some (makeDirectory v files args)
  | "rm" => some (remove v files args)
  | _ => none

def shellNames : List String := ["sh", "dash", "bash"]

/-- Programs that read their input to its end. -/
def drains (name : String) (args : List String) : Bool :=
  ["cat", "head", "tail", "wc", "sort"].contains name && args.all ("-".isPrefixOf ·) ||
    ["tr", "tee"].contains name

def programNames : List String :=
  ["true", "false", "echo", "printf", "cat", "sleep", "test", "[", "head", "tail", "wc", "tr",
    "sort", "seq", "basename", "dirname", "ls", "tee", "touch", "mkdir", "rm"] ++ shellNames

def programDirectories : List (List String) := [["usr", "bin"], ["bin"]]

def machine : Files :=
  programDirectories.foldl
    (fun files directory =>
      programNames.foldl (fun files name => files.put (directory ++ [name]) (.program name))
        (files.makeDirectories directory))
    Files.fresh

def programAt (files : Files) (path : String) : Except FileError String := do
  match ← files.find path with
  | .program name => .ok name
  | _ => .error .permissionDenied

/-- The program of a name in the first of the directories that has it. Where none has, a file of
that name that cannot be run is the reason. -/
def searchProgram (files : Files) (name : String) : List (List String) → Except FileError String
  | [] => .error .notFound
  | directory :: rest =>
    match programAt files ("/" ++ Text.joinWith "/" (directory ++ [name])) with
    | .error .notFound | .error .notDirectory => searchProgram files name rest
    | .error .permissionDenied =>
      (searchProgram files name rest).mapError fun e =>
        if e = .notFound then .permissionDenied else e
    | found => found

def locateProgram (files : Files) (name : String) : Except FileError String :=
  if name.toList.contains '/' then programAt files name
  else searchProgram files name programDirectories

inductive StartFault where
  | nulByte
  | argumentTooLong
  | program (e : FileError)

def StartFault.message : StartFault → String
  | nulByte => "nul byte found in provided data"
  | argumentTooLong => "Argument list too long (os error 7)"
  | program e => e.message

def maxArgumentBytes : Nat := 131071

def startedProgram (files : Files) (name : String) (args : List String) :
    Except StartFault String := do
  if (name :: args).any fun s => s.toList.contains '\x00' then throw .nulByte
  if name.isEmpty then throw (.program .notFound)
  let program ← (locateProgram files name).mapError .program
  if (name :: args).any fun s => maxArgumentBytes < s.utf8ByteSize then throw .argumentTooLong
  return program

end MeshTestbed.Host
