import MeshTestbed.Command.Basic
import MeshTestbed.Json
import MeshTestbed.Wait.Basic

namespace MeshTestbed

inductive FileError where
  | notFound
  | notDirectory
  | isDirectory
  | nameTooLong
  | permissionDenied
  | notText
  | nulInPath
deriving DecidableEq

/-- What is wrong with a configuration, a plan or a list of stages. -/
inductive Misconfiguration where
  | unreadable (path : String) (cause : FileError)
  /-- The text is no configuration; `path` is its file, if it has one. -/
  | malformed (path : Option String)
  | ambiguousOperatorSource
  | nothingSelected
  | emptyFields (keys : List String)
  | emptyMemberNamespace
  | zeroExpectedContainers
  | missingManifests (paths : List String)
  | unnamedStage
  | emptyCommand (stage : String)
  | duplicateStages (names : List String)
  | stated (message : String) (subjects : List String) (fixHint : Option String)
deriving DecidableEq

inductive RunError where
  | malformedWait (e : WaitFault)
  | config (e : Misconfiguration)
  | command (e : CommandFailure)
  | missingPrerequisite (what detail : String)
  | cancelled (reason : String)
  | serialization (detail : String)
  | io (detail : String)
deriving DecidableEq

namespace FileError

def number? : FileError → Option Nat
  | notFound => some 2
  | permissionDenied => some 13
  | notDirectory => some 20
  | isDirectory => some 21
  | nameTooLong => some 36
  | notText | nulInPath => none

def words : FileError → String
  | notFound => "No such file or directory"
  | permissionDenied => "Permission denied"
  | notDirectory => "Not a directory"
  | isDirectory => "Is a directory"
  | nameTooLong => "File name too long"
  | notText => "stream did not contain valid UTF-8"
  | nulInPath => "file name contained an unexpected NUL byte"

def message (e : FileError) : String :=
  e.words ++
    match e.number? with
    | none => ""
    | some n => " (os error " ++ Text.ofNat n ++ ")"

end FileError

namespace Misconfiguration

def message : Misconfiguration → String
  | unreadable path cause => "Cannot read configuration " ++ path ++ ": " ++ cause.message
  | malformed none => "Invalid configuration"
  | malformed (some path) => path ++ ": Invalid configuration"
  | ambiguousOperatorSource => "Set either operators.subscriptions or operators.manifest"
  | nothingSelected => "No components selected"
  | emptyFields keys => "Empty required fields: " ++ Text.joinWith ", " keys
  | emptyMemberNamespace => "Empty member namespace name"
  | zeroExpectedContainers => "smoke.expected_containers must be at least 1"
  | missingManifests paths => "Missing manifests: " ++ Text.joinWith ", " paths
  | unnamedStage => "Stage with an empty name"
  | emptyCommand stage => "Stage '" ++ stage ++ "' has an empty command"
  | duplicateStages names => "Duplicate stage names: " ++ Text.joinWith ", " names
  | stated message _ _ => message

/-- The configuration keys, files or stages involved. -/
def subjects : Misconfiguration → List String
  | unreadable path _ => [path]
  | ambiguousOperatorSource => ["operators.subscriptions", "operators.manifest"]
  | emptyFields keys => keys
  | emptyMemberNamespace => ["control_plane.member_namespaces"]
  | zeroExpectedContainers => ["smoke.expected_containers"]
  | missingManifests paths => paths
  | emptyCommand stage => [stage]
  | duplicateStages names => names
  | stated _ subjects _ => subjects
  | malformed _ | nothingSelected | unnamedStage => []

def fixHint : Misconfiguration → Option String
  | malformed _ => some "Check key names and value types against the documented layout"
  | nothingSelected => some "Select operators, control_plane, smoke or all"
  | missingManifests _ => some "Paths are relative to the configuration file"
  | unnamedStage => some "Give every stage a unique name"
  | duplicateStages _ => some "Stage names must be unique within a run"
  | stated _ _ hint => hint
  | _ => none

def toJson (e : Misconfiguration) : Json :=
  .obj <|
    [("message", .str e.message), ("subjects", .strs e.subjects)] ++
      Json.optional "fix_hint" .str e.fixHint

end Misconfiguration

namespace RunError

def message : RunError → String
  | malformedWait e => e.message
  | config e => e.message
  | command e => e.message
  | missingPrerequisite what detail => "Missing prerequisite: " ++ what ++ ": " ++ detail
  | cancelled reason => "Run cancelled: " ++ reason
  | serialization detail => "Serialization error: " ++ detail
  | io detail => "IO error: " ++ detail

def causes : RunError → List String
  | malformedWait e => [e.message]
  | config e => [e.message]
  | command e => e.message :: e.causes
  | io detail => [detail]
  | missingPrerequisite _ _ | cancelled _ | serialization _ => []

/-- A command line that fails for this reason exits with it. -/
def exitCode : RunError → Nat
  | cancelled _ => 130
  | _ => 1

end RunError

end MeshTestbed
