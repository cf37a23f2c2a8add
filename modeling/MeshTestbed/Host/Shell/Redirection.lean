import MeshTestbed.Host.Shell.Builtin

namespace MeshTestbed.Shell

structure RedirectFault where
  text : String
  fatal : Bool := false

def digit? (s : String) : Option Nat :=
  match s.toList with
  | [c] => if Text.isDigit c then some (Text.digitValue c) else none
  | _ => none

def redirect (descriptor : Nat) (kind : RedirectKind) (target : String) (s : Session) :
    Except RedirectFault Session :=
  let cannot (verb words : String) : Except RedirectFault Session :=
    .error { text := "cannot " ++ verb ++ " " ++ target ++ ": " ++ words }
  let opened (append : Bool) : Except RedirectFault Session :=
    match s.files.write target [] append, s.files.locate target with
    | .ok files, .ok place =>
      let sink := if s.files.node? place = some .null then .null else .file (Builtin.pathOf place)
      .ok ({ s with files }.lead descriptor sink)
    | .error .notFound, _ => cannot "create" "Directory nonexistent"
    | .error e, _ | _, .error e => cannot "create" e.words
  match kind with
  | .text => .ok { s with input := Text.encode target }
  | .read =>
    match s.files.readBytes target with
    | .ok bytes => .ok (if descriptor = 0 then { s with input := bytes } else s)
    | .error .notFound => cannot "open" "No such file"
    | .error e => cannot "open" e.words
  | .duplicate =>
    match digit? target with
    | some source =>
      if descriptor = 0 then .ok s
      else match s.sinks.lookup source with
        | some sink => .ok (s.lead descriptor sink)
        | none => .error { text := target ++ ": Bad file descriptor" }
    | none =>
      if target ≠ "-" then .error { text := "Syntax error: Bad fd number", fatal := true }
      else if descriptor = 0 then .ok { s with input := [] }
      else .ok (s.lead descriptor .closed)
  | .write => opened false
  | .append => opened true
  | .readWrite =>
    let bytes := (s.files.readBytes target).toOption.getD []
    (opened true).map fun t =>
      if descriptor = 0 then { s with files := t.files, input := bytes } else t

end MeshTestbed.Shell
