import MeshTestbed.Host.Shell.Builtin

namespace MeshTestbed.Shell

structure ShellCall where
  /-- The first operand is the script itself. -/
  given : Bool := false
  /-- The script is the input, whatever the operands. -/
  fromInput : Bool := false
  options : List Char := []
  operands : List String := []

namespace ShellCall

def ofArguments : List String → Except String ShellCall
  | [] => .ok {}
  | "--" :: rest | "-" :: rest => .ok { operands := rest }
  | "-o" :: name :: rest => do
    let call ← ofArguments rest
    match Builtin.optionLetters.lookup name with
    | some letter => return { call with options := letter :: call.options }
    | none => throw ("-o " ++ name)
  | arg :: rest =>
    match arg.toList with
    | '-' :: letters => do
      let call ← ofArguments rest
      let known := Builtin.optionLetters.map (·.2)
      match letters.find? fun c => c ≠ 'c' && !known.contains c with
      | some c => throw (String.ofList ['-', c])
      | none =>
        return { call with
          given := call.given || letters.contains 'c'
          fromInput := call.fromInput || letters.contains 's'
          options := letters.filter (fun c => c ≠ 'c' && c ≠ 's') ++ call.options }
    | _ => .ok { operands := arg :: rest }

end ShellCall

end MeshTestbed.Shell
