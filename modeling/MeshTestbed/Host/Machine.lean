import MeshTestbed.Command.Process
import MeshTestbed.Host.Shell.Execution
import MeshTestbed.Run.Session

/-!
A machine to rehearse on: programs and scripts that act on its files, and take no time.
-/

namespace MeshTestbed.Host

def ended (out err : List UInt8) (exitCode : Option Nat) : ProcessEnd :=
  .ended out err (exitCode.map fun n => Int32.ofNat n)

def runProgram (files : Files) (input : List UInt8) (name : String) (args : List String)
    (program : String) : ProcessEnd × Files :=
  match program? files input name program args with
  | some (o, files) => (ended o.out o.err (some o.status), files)
  | none =>
    let start : Shell.Session := { files := files, name := name, input := input }
    let (signal, s) := (Shell.runShell Shell.maxSteps name args).run.run start
    let exitCode := match signal with
      | .ok none => some s.status
      | .ok (some _) | .error _ => none
    (ended (s.bytesTo .stdout) (s.bytesTo .stderr) exitCode, s.files)

def system : ProcessSystem Files := fun files name args input =>
  match startedProgram files name args with
  | .error e => (.notStarted e.message, files)
  | .ok program => runProgram files (Text.encode (input.getD "")) name args program

def answer : Files → Call → Except CommandFailure Completion × Files := system.answer

def runner : Runner Files where
  reply files c :=
    let (result, files) := answer files c
    ({ result }, files)

end MeshTestbed.Host
