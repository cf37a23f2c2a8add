import MeshTestbed.Command.Basic
import MeshTestbed.Text.Utf8

namespace MeshTestbed

inductive ProcessEnd where
  | notStarted (cause : String)
  | lost (cause : String)
  | ended (out err : List UInt8) (exitCode : Option Int32)

/-- What runs programs by their names, with arguments and an input, and has a state of its own. -/
abbrev ProcessSystem (σ : Type) :=
  σ → String → List String → Option String → ProcessEnd × σ

def ProcessEnd.answer (program : String) : ProcessEnd → Except CommandFailure Completion
  | notStarted cause => .error (.startup program cause)
  | lost cause => .error (.io program cause)
  | ended out err exitCode => .ok ⟨Text.decode out, Text.decode err, exitCode⟩

namespace ProcessSystem

variable {σ : Type} {system : ProcessSystem σ} {state : σ} {c : Call}

def answer (system : ProcessSystem σ) (state : σ) (c : Call) :
    Except CommandFailure Completion × σ :=
  match c.argv with
  | [] => (.error .emptyArgv, state)
  | program :: args =>
    let (ended, state) := system state program args c.input
    (ended.answer program, state)

theorem answer_eq_emptyArgv_iff : (system.answer state c).1 = .error .emptyArgv ↔ c.argv = [] := by
  rcases c with ⟨_ | ⟨program, args⟩, input⟩
  · simp [answer]
  · rcases hended : system state program args input with ⟨ended, state'⟩
    cases ended <;> simp [answer, hended, ProcessEnd.answer]

end ProcessSystem

end MeshTestbed
