import MeshTestbed.CommandLine.Arguments
import MeshTestbed.Config.Document
import MeshTestbed.Config.Planning
import MeshTestbed.Host.Files
import MeshTestbed.Json.Printer
import MeshTestbed.Run.Testbed

namespace MeshTestbed

inductive Printout where
  | text (s : String)
  | data (v : Json)

def Printout.render : Printout → String
  | .text s => s
  | .data v => v.pretty 0 ++ "\n"

structure Ending where
  exitCode : Nat
  printout : Printout := .text ""
  error : Option String := none

def misuseCode : Nat := 2

/-- Exit code of a run that stopped without a report. -/
def faultCode : Nat := 101

namespace Ending

def failure (exitCode : Nat) (messages : List String) : Ending :=
  { exitCode, error := some (Text.joinWith ": " messages) }

end Ending

namespace Invocation

def load (i : Invocation) (files : Files) : Except Misconfiguration Config := do
  let c ← Config.ofFile files.readText i.config
  let c := c.selecting i.parts
  return match i.kubeconfig with
    | none => c
    | some path => c.usingKubeconfig path

/-- The words of the commands that the operation can give. Any of them may be the path of a file. -/
def commandWords (i : Invocation) (files : Files) : List String :=
  match i.load files with
  | .error _ => []
  | .ok config =>
    match config.plan with
    | .error _ => []
    | .ok plan => (plan.commands config.cluster).flatten

def stageLines (stages : List Stage) : List String :=
  stages.zipIdx.map fun (stage, index) =>
    let number := String.ofList (Text.padLeft 2 ' ' (Text.digitsOfNat (index + 1)))
    "  " ++ number ++ ". " ++ stage.render

def preview (format : OutputStyle) (install uninstall : List Stage) : Printout :=
  match format with
  | .text =>
    .text <| Text.unlines <|
      "install:" :: stageLines install ++ "uninstall:" :: stageLines uninstall
  | .json =>
    .data <| .obj
      [("install", .arr (install.map Stage.toJson)),
        ("uninstall", .arr (uninstall.map Stage.toJson))]

def printout (format : OutputStyle) (text : String) (data : Json) : Printout :=
  match format with
  | .text => .text text
  | .json => .data data

def endingOf {α : Type} (context : String) (print : α → Printout) (exitCode : α → Nat) :
    Except Fault (Except RunError α) → Ending
  | .error _ => { exitCode := faultCode }
  | .ok (.error e) => .failure e.exitCode (context :: e.message :: e.causes)
  | .ok (.ok report) => { exitCode := exitCode report, printout := print report }

variable {σ : Type}

def perform (i : Invocation) (files : Files) (runner : Runner σ) (session : Session σ)
    (runId : String) : Ending :=
  match i.load files with
  | .error e => .failure 1 ["loading configuration from " ++ i.config, e.message]
  | .ok config =>
    let plan := match i.operation with
      | .plan => config.plan
      | _ => config.checkedPlan files.isFile
    match plan with
    | .error e => .failure 1 ["building install plan", e.message]
    | .ok plan =>
      let o : Testbed σ := { plan, runner, tool := config.cluster }
      match i.operation with
      | .plan =>
        { exitCode := 0
          printout := preview i.output (plan.installation o.tool) (plan.removal o.tool) }
      | .install =>
        endingOf "install" (fun r => printout i.output r.render r.toJson) InstallRecord.exitCode
          ((o.install runId).run.run session).1
      | .uninstall =>
        endingOf "uninstall" (fun r => printout i.output r.render r.toJson)
          RemovalRecord.exitCode ((o.uninstall runId).run.run session).1

end Invocation

def versionLine : String := "meshflow 0.1.0"

namespace Request

def configFile? : Request → Option String
  | .invoke i => some i.config
  | .help | .version | .misuse => none

def commandWords (files : Files) : Request → List String
  | .invoke i => i.commandWords files
  | .help | .version | .misuse => []

variable {σ : Type}

def perform (r : Request) (files : Files) (runner : Runner σ) (session : Session σ)
    (runId : String) : Ending :=
  match r with
  | .invoke i => i.perform files runner session runId
  | .help => { exitCode := 0 }
  | .version => { exitCode := 0, printout := .text (versionLine ++ "\n") }
  | .misuse => { exitCode := misuseCode }

end Request

end MeshTestbed
