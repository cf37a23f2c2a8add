import MeshTestbed.Host.Shell.Session

namespace MeshTestbed.Shell

open ShellM

def checkFailure : ShellM Unit := do
  let s ← get
  if s.status ≠ 0 && s.hasOption 'e' && !s.tested then throw .exit

def looked (m : ShellM Unit) : ShellM Unit :=
  inside (fun s => { s with tested := true }) (fun before s => { s with tested := before.tested }) m

def turn (m : ShellM Unit) : ShellM Bool := do
  match ← attempt m with
  | none => return true
  | some (.breakLoop n) => if n ≤ 1 then return false else throw (.breakLoop (n - 1))
  | some (.nextTurn n) => if n ≤ 1 then return true else throw (.nextTurn (n - 1))
  | some how => throw how

def inLoop (m : ShellM Unit) : ShellM Unit :=
  inside (fun s => { s with loops := s.loops + 1 })
    (fun before s => { s with loops := before.loops }) m

def inFunction (args : List String) (m : ShellM Unit) : ShellM Unit :=
  inside (fun s => { s with args, saved := some [], loops := 0 })
    (fun before s =>
      let s := (s.saved.getD []).foldl (fun s (name, value) => s.restore name value) s
      { s with args := before.args, saved := before.saved, loops := before.loops })
    do
      match ← attempt m with
      | none | some .fromFunction => return
      | some how => throw how

end MeshTestbed.Shell
