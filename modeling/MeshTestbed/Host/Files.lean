import MeshTestbed.Error
import MeshTestbed.Path
import MeshTestbed.Text.Utf8

/-!
The files of a machine. A directory is there once it or something in it is made; each name of a
path is looked up in the directory before it, so a dot-dot leaves a directory that must be there.
-/

namespace MeshTestbed

inductive FileNode where
  | file (bytes : List UInt8)
  | directory
  | null
  | program (name : String)
deriving DecidableEq

structure Files where
  cwd : List String := []
  nodes : List (List String × FileNode) := []

namespace Files

/-- The node of that name; the latest one made counts. -/
def node? (f : Files) (place : List String) : Option FileNode :=
  if place.isEmpty then some .directory else f.nodes.lookup place

def maxNameBytes : Nat := 255

def maxPathBytes : Nat := 4095

def walk (f : Files) (here : List String) : List String → Except FileError (List String)
  | [] => .ok here
  | name :: rest =>
    match f.node? here with
    | none => .error .notFound
    | some .directory =>
      if name = "" ∨ name = "." then f.walk here rest
      else if name = ".." then f.walk here.dropLast rest
      else if maxNameBytes < name.utf8ByteSize then .error .nameTooLong
      else f.walk (here ++ [name]) rest
    | some _ => .error .notDirectory

def locate (f : Files) (path : String) : Except FileError (List String) :=
  if path.isEmpty then .error .notFound
  else if path.toList.contains '\x00' then .error .nulInPath
  else if maxPathBytes < path.utf8ByteSize then .error .nameTooLong
  else f.walk (if Path.isAbsolute path then [] else f.cwd) (Path.names path)

def find (f : Files) (path : String) : Except FileError FileNode := do
  match f.node? (← f.locate path) with
  | some node => .ok node
  | none => .error .notFound

/-- What the file of a program starts with. A byte of it stands in no UTF-8 text. -/
def programBytes : List UInt8 := [0x7f, 0x45, 0x4c, 0x46, 0x02, 0x01, 0x01, 0x00, 0xff]

def readBytes (f : Files) (path : String) : Except FileError (List UInt8) := do
  match ← f.find path with
  | .file bytes => .ok bytes
  | .null => .ok []
  | .program _ => .ok programBytes
  | .directory => .error .isDirectory

def readText (f : Files) (path : String) : Except FileError String := do
  let bytes ← f.readBytes path
  match String.fromUTF8? ⟨bytes.toArray⟩ with
  | some s => .ok s
  | none => .error .notText

def isFile (f : Files) (path : String) : Bool :=
  match f.find path with
  | .ok (.file _) | .ok (.program _) => true
  | _ => false

def isProgram (f : Files) (path : String) : Bool :=
  match f.find path with
  | .ok (.program _) => true
  | _ => false

def isDirectory (f : Files) (path : String) : Bool :=
  match f.find path with
  | .ok .directory => true
  | _ => false

def put (place : List String) (node : FileNode) (f : Files) : Files :=
  { f with nodes := (place, node) :: f.nodes }

def remove (place : List String) (f : Files) : Files :=
  { f with nodes := f.nodes.filter fun node => !place.isPrefixOf node.1 }

/-- The names in a directory in the order of their characters, those that start with a dot apart. -/
def names (f : Files) (place : List String) : List String :=
  let inside := f.nodes.filterMap fun (path, _) =>
    if path.dropLast = place && path.length = place.length + 1 then path.getLast? else none
  let seen := inside.filter fun name => !".".isPrefixOf name
  (seen.mergeSort fun a b => a ≤ b).eraseReps

/-- Makes the directories of these names, each in the one before, as far as they are missing. -/
def makeWithin (here : List String) (names : List String) (f : Files) : Files :=
  match names with
  | [] => f
  | name :: rest =>
    let place := here ++ [name]
    makeWithin place rest (if (f.node? place).isSome then f else f.put place .directory)

def makeDirectories (place : List String) (f : Files) : Files := f.makeWithin [] place

def placeOf (f : Files) (path : String) : List String :=
  (Path.names path).foldl
    (fun here name =>
      if name = "" ∨ name = "." then here
      else if name = ".." then here.dropLast
      else here ++ [name])
    (if Path.isAbsolute path then [] else f.cwd)

def addFile (path : String) (bytes : List UInt8) (f : Files) : Files :=
  let place := f.placeOf path
  (f.makeDirectories place.dropLast).put place (.file bytes)

def addDirectory (path : String) (f : Files) : Files := f.makeDirectories (f.placeOf path)

/-- Writes a file whose directory must be there. -/
def write (path : String) (bytes : List UInt8) (append : Bool) (f : Files) :
    Except FileError Files := do
  let place ← f.locate path
  if (f.node? place.dropLast).isNone then throw .notFound
  match f.node? place with
  | some .directory => throw .isDirectory
  | some .null => return f
  | some (.program _) => throw .permissionDenied
  | some (.file old) => return f.put place (.file (if append then old ++ bytes else bytes))
  | none => return f.put place (.file bytes)

def fresh : Files :=
  let usual := ["bin", "dev", "etc", "home", "proc", "root", "sbin", "tmp", "usr", "var"]
  let root : Files := usual.foldl (fun f name => makeDirectories [name] f) {}
  let here := ["tmp", "testbed"]
  { (root.put ["dev", "null"] .null).makeDirectories here with cwd := here }

end Files

end MeshTestbed
