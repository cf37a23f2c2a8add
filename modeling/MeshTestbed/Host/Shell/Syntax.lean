namespace MeshTestbed.Shell

inductive RedirectKind where
  | read
  | write
  | append
  | readWrite
  | duplicate
  | text
deriving DecidableEq

inductive ParameterRule where
  | value
  | length
  /-- Another word if there is no value; with `orEmpty` also for an empty one. -/
  | default (orEmpty : Bool)
  /-- As `default`; the parameter then has that value. -/
  | assign (orEmpty : Bool)
  | demand (orEmpty : Bool)
  /-- Another word if there is a value. -/
  | instead (orEmpty : Bool)
  /-- The value without what a pattern covers of its start or end. -/
  | trim (atStart longest : Bool)
  | bad
deriving DecidableEq

mutual

inductive Piece where
  | text (quoted : Bool) (s : String)
  | parameter (quoted : Bool) (name : String) (rule : ParameterRule) (word : List Piece)
  | output (quoted : Bool) (body : Command)
  | arithmetic (quoted : Bool) (expression : List Piece)

inductive Redirect where
  | mk (descriptor : Nat) (kind : RedirectKind) (target : List Piece)

inductive Command where
  | simple (line : Nat) (assignments : List (String × List Piece)) (words : List (List Piece))
    (redirects : List Redirect)
  | pipeline (parts : List Command)
  | negation (body : Command)
  | both (first second : Command)
  | either (first second : Command)
  | series (parts : List Command)
  /-- Runs beside what follows; here, before it. -/
  | background (body : Command)
  | branch (cases : List (Command × Command)) (otherwise : Option Command)
  | choice (subject : List Piece) (cases : List (List (List Piece) × Command))
  | loop (untilTrue : Bool) (condition body : Command)
  | each (name : String) (words : Option (List (List Piece))) (body : Command)
  | define (name : String) (body : Command)
  /-- Runs with changes of its own to variables. -/
  | subshell (body : Command)
  | redirected (line : Nat) (body : Command) (redirects : List Redirect)

end

abbrev Word := List Piece

def Word.plain? : Word → Option String
  | [] => some ""
  | .text false s :: rest => (Word.plain? rest).map (s ++ ·)
  | _ => none

end MeshTestbed.Shell
