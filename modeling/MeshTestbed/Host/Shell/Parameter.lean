import MeshTestbed.Host.Shell.Builtin

namespace MeshTestbed.Shell

open ShellM

def valueParts (quoted : Bool) (name : String) : ShellM (List Part) := do
  let s ← get
  if name = "@" ∨ (name = "*" ∧ !quoted) then return Part.ofFields s.separators quoted s.args
  else if name = "*" then
    let separator := String.ofList (s.separators.take 1)
    return Part.quoted (Text.joinWith separator s.args)
  else match s.value? name with
    | some v => return Part.ofText s.separators quoted v
    | none =>
      if s.hasOption 'u' then fail 2 (name ++ ": parameter not set")
      return Part.ofText s.separators quoted ""

def isMissing (orEmpty : Bool) : Option String → Bool
  | none => true
  | some v => orEmpty && v.isEmpty

def expandTilde (w : Word) : ShellM (List Part × Word) := do
  match w with
  | .text false s :: rest =>
    match s.toList with
    | '~' :: cs =>
      let user := String.ofList (cs.takeWhile (· ≠ '/'))
      let left := .text false (String.ofList (cs.drop user.length)) :: rest
      if user.isEmpty then
        return (Part.quoted (((← get).bindings.lookup "HOME").getD homeDirectory), left)
      else if user = "root" then return (Part.quoted homeDirectory, left)
      else return ([], w)
    | _ => return ([], w)
  | _ => return ([], w)

def calculate (expression : String) : ShellM String := do
  let s ← get
  match ArithExpr.ofText? expression >>= fun e => e.eval s.value [] with
  | .ok (n, assigned) =>
    assigned.reverse.forM fun (name, value) => Builtin.assign "" name (Text.ofInt value.toInt)
    return Text.ofInt n.toInt
  | .error e => fail 2 (e.message expression)

end MeshTestbed.Shell
