import MeshTestbed.Text.Blank
import MeshTestbed.Text.Lines

namespace MeshTestbed

abbrev Argv := List String

/-- What a finished command leaves behind; a command killed by a signal has no exit code. -/
structure Completion where
  stdout : String := ""
  stderr : String := ""
  exitCode : Option Int32 := some 0
deriving DecidableEq

def Completion.isOk (o : Completion) : Bool := o.exitCode == some 0

inductive CommandFailure where
  | startup (program cause : String)
  | io (program cause : String)
  | emptyArgv
deriving DecidableEq

namespace CommandFailure

def message : CommandFailure → String
  | startup program cause => "failed to start `" ++ program ++ "`: " ++ cause
  | io program cause => "I/O error while running `" ++ program ++ "`: " ++ cause
  | emptyArgv => "empty command line"

def causes : CommandFailure → List String
  | startup _ cause => [cause]
  | io _ cause => [cause]
  | emptyArgv => []

end CommandFailure

structure Call where
  argv : Argv
  input : Option String := none
deriving DecidableEq

/-- An argument in a summary: templates are cut after their name, blanks are quoted. -/
def summarizeArg (arg : String) : String :=
  let cs := arg.toList
  if "--template=".toList.isPrefixOf cs || "jsonpath=".toList.isPrefixOf cs then
    String.ofList (cs.takeWhile (· ≠ '=')) ++ "=..."
  else if cs.any Text.isBlank then "'" ++ arg ++ "'"
  else arg

def summarize (argv : Argv) : String := Text.joinWith " " (argv.map summarizeArg)

end MeshTestbed
