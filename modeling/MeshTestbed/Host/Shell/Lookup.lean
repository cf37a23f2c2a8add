import MeshTestbed.Host.Shell.Builtin

namespace MeshTestbed.Shell

open ShellM

def commandKind? (name : String) : ShellM (Option String) := do
  let s ← get
  if Token.keywords.contains name then return some " is a shell keyword"
  else if (s.functions.lookup name).isSome then return some " is a shell function"
  else if Builtin.names.contains name then
    return some <|
      if specialBuiltins.contains name then " is a special shell builtin" else " is a shell builtin"
  else return none

def describe (inWords : Bool) (names : List String) : ShellM Unit := do
  setStatus 0
  names.forM fun name => do
    let line (s : String) : ShellM Unit :=
      modify fun t => t.write t.out (Text.encode (s ++ "\n"))
    match ← commandKind? name with
    | some kind => line (if inWords then name ++ kind else name)
    | none =>
      if Host.programNames.contains name then
        let path := "/usr/bin/" ++ name
        line (if inWords then name ++ " is " ++ path else path)
      else
        if inWords then line (name ++ ": not found")
        setStatus 127

def trace (words : List String) : ShellM Unit := do
  let s ← get
  if s.hasOption 'x' then set (s.tell ("+ " ++ Text.joinWith " " words ++ "\n"))

end MeshTestbed.Shell
