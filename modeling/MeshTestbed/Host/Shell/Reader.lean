import MeshTestbed.Host.Shell.Word

/-!
Commands from the text of a script. A script is read line by line, so that the commands before a
fault run.
-/

namespace MeshTestbed.Shell

namespace Token

def keywords : List String :=
  ["!", "case", "do", "done", "elif", "else", "esac", "fi", "for", "if", "in", "then", "until",
    "while", "\x7b", "\x7d"]

def operators : List String := ["&&", "||", ";;", "&", "|", ";", "(", ")"]

def redirectSigns : List String := ["<<-", "<<", "<&", "<>", "<", ">>", ">&", ">|", ">"]

/-- Tokens that no command starts with, since they end the list before them. -/
def closesList : Token → Bool
  | endOfText => true
  | operator s => s = ")" || s = ";;"
  | keyword s => ["do", "done", "elif", "else", "esac", "fi", "then", "\x7d"].contains s
  | _ => false

def title : Token → String
  | endOfText => "end of file"
  | lineEnd => "newline"
  | operator s | keyword s => "\"" ++ s ++ "\""
  | redirect .. => "redirection"
  | word _ => "word"

def isOperator (s : String) : Token → Bool
  | operator t => s = t
  | _ => false

def isKeyword (s : String) : Token → Bool
  | keyword t => s = t
  | _ => false

def asWord : Token → Word
  | word w => w
  | keyword s => [.text false s]
  | _ => []

end Token

def specialBuiltins : List String :=
  [".", ":", "break", "continue", "eval", "exec", "exit", "export", "readonly", "return", "set",
    "shift", "times", "trap", "unset"]

structure SimpleParts where
  assignments : List (String × Word) := []
  words : List Word := []
  redirects : List Redirect := []

inductive Bounds where
  | line
  /-- A word that closes the list; one command at least comes before it. -/
  | block
  /-- As `block`, with any number of commands. -/
  | clause
deriving DecidableEq

namespace Reader

def skipBlank (fuel : Nat) : Reader Unit :=
  match fuel with
  | 0 => return
  | n + 1 => do
    match ← rest with
    | ' ' :: _ | '\t' :: _ =>
      skip 1
      skipBlank n
    | '\\' :: '\n' :: _ =>
      skip 2
      skipBlank n
    | '#' :: _ => discard (takeWhile (· ≠ '\n'))
    | _ => return

def redirectSign? (cs : List Char) : Option (Option Nat × String × Nat) :=
  let (digit, cs) := match cs with
    | d :: rest => if Text.isDigit d then (some (Text.digitValue d), rest) else (none, cs)
    | [] => (none, [])
  (Token.redirectSigns.find? fun s => s.toList.isPrefixOf cs).map fun sign =>
    (digit, sign, sign.length + if digit.isSome then 1 else 0)

def unexpected {α : Type} (t : Token) (wanted : Option String) : Reader α :=
  refuse <| t.title ++ " unexpected" ++
    match wanted with
    | none => ""
    | some w => " (expecting " ++ w ++ ")"

def push (t : Token) : Reader Unit := modify fun s => { s with ahead := some t }

/-- The lines of a text up to the one that is the mark, and the text after it. -/
def hereLines (fuel : Nat) (stripTabs : Bool) (mark : List Char) (cs : List Char) :
    List Char × List Char :=
  match fuel, cs with
  | 0, _ | _, [] => ([], [])
  | n + 1, cs =>
    let cs := if stripTabs then cs.dropWhile (· = '\t') else cs
    let line := cs.takeWhile (· ≠ '\n')
    let after := cs.drop (line.length + 1)
    if line = mark then ([], after)
    else
      let (body, left) := hereLines n stripTabs mark after
      (cs.take (line.length + 1) ++ body, left)

def unquoted (w : Word) : List Char × Bool :=
  w.foldl
    (fun (cs, quoted) piece =>
      match piece with
      | .text q s => (cs ++ s.toList, quoted || q)
      | _ => (cs, quoted))
    ([], false)

def assignment? : Word → Option (String × Word)
  | .text false s :: rest =>
    let name := String.ofList (s.toList.takeWhile (· ≠ '='))
    let value := s.toList.drop (name.length + 1)
    if isName name && name.length < s.length then
      some (name, if value.isEmpty then rest else .text false (String.ofList value) :: rest)
    else none
  | _ => none

mutual

/-- The commands inside a word, up to the parenthesis that closes them if there is one. -/
def inner (fuel : Nat) (closed : Bool) : Reader Command :=
  match fuel with
  | 0 => tooDeep
  | n + 1 => do
    let body ← list n .clause
    if closed then
      let t ← next n false true
      if !t.isOperator ")" then unexpected t (some "\")\"")
    return body

def lex (fuel : Nat) : Reader Token :=
  match fuel with
  | 0 => tooDeep
  | n + 1 => do
    skipBlank n
    let cs ← rest
    match cs with
    | [] => return .endOfText
    | '\n' :: _ =>
      skip 1
      return .lineEnd
    | _ =>
      match Token.operators.find? fun s => s.toList.isPrefixOf cs with
      | some s =>
        skip s.length
        return .operator s
      | none =>
        match redirectSign? cs with
        | some (descriptor, sign, length) =>
          skip length
          return .redirect descriptor sign
        | none => return .word (← pieces (inner n) n false .word)

/-- The next token. With `lines` it is none that ends a line; with `keywords` a word may be one. -/
def next (fuel : Nat) (lines keywords : Bool) : Reader Token :=
  match fuel with
  | 0 => tooDeep
  | n + 1 => do
    let t ← match (← get).ahead with
      | some t => do
        modify fun s => { s with ahead := none }
        pure t
      | none => lex n
    match t with
    | .lineEnd => if lines then next n lines keywords else return t
    | .word w =>
      match w.plain? with
      | some s => return if keywords && Token.keywords.contains s then .keyword s else t
      | none => return t
    | _ => return t

def keyword (fuel : Nat) (lines : Bool) (s : String) : Reader Unit :=
  match fuel with
  | 0 => tooDeep
  | n + 1 => do
    let t ← next n lines true
    if !t.isKeyword s then unexpected t (some ("\"" ++ s ++ "\""))

/-- Reads a redirection after its sign. A text that a double sign announces is taken out of the
lines below. -/
def redirection (fuel : Nat) (descriptor : Option Nat) (sign : String) : Reader Redirect :=
  match fuel with
  | 0 => tooDeep
  | n + 1 => do
    match ← next n false false with
    | .word w =>
      match sign with
      | ">" | ">|" => return .mk (descriptor.getD 1) .write w
      | ">>" => return .mk (descriptor.getD 1) .append w
      | ">&" => return .mk (descriptor.getD 1) .duplicate w
      | "<&" => return .mk (descriptor.getD 0) .duplicate w
      | "<>" => return .mk (descriptor.getD 0) .readWrite w
      | "<" => return .mk (descriptor.getD 0) .read w
      | _ =>
        let (mark, quoted) := unquoted w
        let s ← get
        let thisLine := s.rest.takeWhile (· ≠ '\n')
        let below := s.rest.drop (thisLine.length + 1)
        let (body, after) := hereLines (below.length + 1) (sign = "<<-") mark below
        let taken := (below.filter (· = '\n')).length - (after.filter (· = '\n')).length
        set { s with rest := thisLine ++ '\n' :: after, line := s.line + taken }
        let text ← if quoted then pure [.text true (String.ofList body)] else do
          let (text, _) ← (pieces (inner n) n true .text).run { rest := body, line := s.line }
          pure text
        return .mk (descriptor.getD 0) .text text
    | t => unexpected t none

def simple (fuel : Nat) (line : Nat) (parts : SimpleParts) : Reader Command :=
  match fuel with
  | 0 => tooDeep
  | n + 1 => do
    let t ← next n false false
    match t with
    | .word w =>
      match if parts.words.isEmpty then assignment? w else none with
      | some a => simple n line { parts with assignments := parts.assignments ++ [a] }
      | none => simple n line { parts with words := parts.words ++ [w] }
    | .redirect descriptor sign =>
      let r ← redirection n descriptor sign
      simple n line { parts with redirects := parts.redirects ++ [r] }
    | _ =>
      match t.isOperator "(", parts with
      | true, ⟨[], [name], []⟩ => definition n name
      | _, _ =>
        push t
        return .simple line parts.assignments parts.words parts.redirects

def definition (fuel : Nat) (name : Word) : Reader Command :=
  match fuel with
  | 0 => tooDeep
  | n + 1 => do
    let t ← next n false false
    if !t.isOperator ")" then unexpected t (some "\")\"")
    match name.plain? with
    | some name =>
      if !isName name || specialBuiltins.contains name then refuse "Bad function name"
      return .define name (← command n true)
    | none => refuse "Bad function name"

def redirections (fuel : Nat) : Reader (List Redirect) :=
  match fuel with
  | 0 => tooDeep
  | n + 1 => do
    match ← next n false true with
    | .redirect descriptor sign =>
      let r ← redirection n descriptor sign
      return r :: (← redirections n)
    | t =>
      push t
      return []

def branches (fuel : Nat) : Reader (List (Command × Command) × Option Command) :=
  match fuel with
  | 0 => tooDeep
  | n + 1 => do
    let condition ← list n .block
    keyword n false "then"
    let body ← list n .block
    let t ← next n false true
    if t.isKeyword "elif" then
      let (cases, otherwise) ← branches n
      return ((condition, body) :: cases, otherwise)
    else if t.isKeyword "else" then
      let otherwise ← list n .block
      keyword n false "fi"
      return ([(condition, body)], some otherwise)
    else
      push t
      keyword n false "fi"
      return ([(condition, body)], none)

def loopWords (fuel : Nat) : Reader (List Word) :=
  match fuel with
  | 0 => tooDeep
  | n + 1 => do
    match ← next n false false with
    | .word w => return w :: (← loopWords n)
    | .lineEnd | .operator ";" => return []
    | t => unexpected t none

def patterns (fuel : Nat) (first : Token) : Reader (List Word) :=
  match fuel with
  | 0 => tooDeep
  | n + 1 => do
    let t ← next n false false
    if t.isOperator "|" then return first.asWord :: (← patterns n (← next n false false))
    else if t.isOperator ")" then return [first.asWord]
    else unexpected t (some "\")\"")

def cases (fuel : Nat) : Reader (List (List Word × Command)) :=
  match fuel with
  | 0 => tooDeep
  | n + 1 => do
    let t ← next n true true
    if t.isKeyword "esac" then return []
    let heads ← patterns n (← if t.isOperator "(" then next n false false else pure t)
    let body ← list n .clause
    let t ← next n true true
    if t.isKeyword "esac" then return [(heads, body)]
    else if t.isOperator ";;" then return (heads, body) :: (← cases n)
    else unexpected t (some "\";;\"")

def doBlock (fuel : Nat) (lines : Bool) : Reader Command :=
  match fuel with
  | 0 => tooDeep
  | n + 1 => do
    keyword n lines "do"
    let body ← list n .block
    keyword n false "done"
    return body

def compound (fuel : Nat) (t : Token) : Reader Command :=
  match fuel with
  | 0 => tooDeep
  | n + 1 => do
    match t with
    | .operator "(" =>
      let body ← list n .block
      let t ← next n false true
      if !t.isOperator ")" then unexpected t (some "\")\"")
      return .subshell body
    | .keyword "\x7b" =>
      let body ← list n .block
      keyword n false "\x7d"
      return body
    | .keyword "if" =>
      let (cases, otherwise) ← branches n
      return .branch cases otherwise
    | .keyword "while" =>
      let condition ← list n .block
      return .loop false condition (← doBlock n false)
    | .keyword "until" =>
      let condition ← list n .block
      return .loop true condition (← doBlock n false)
    | .keyword "for" =>
      match (← next n false false).asWord.plain? with
      | none => refuse "Bad for loop variable"
      | some name =>
        if !isName name then refuse "Bad for loop variable"
        let t ← next n true true
        if t.isKeyword "in" then
          let words ← loopWords n
          return .each name (some words) (← doBlock n true)
        else
          if !t.isOperator ";" then push t
          return .each name none (← doBlock n true)
    | .keyword "case" =>
      match ← next n false false with
      | .word subject =>
        keyword n true "in"
        return .choice subject (← cases n)
      | t => unexpected t (some "word")
    | t => unexpected t none

def command (fuel : Nat) (lines : Bool) : Reader Command :=
  match fuel with
  | 0 => tooDeep
  | n + 1 => do
    let t ← next n lines true
    let line := (← get).line
    match t with
    | .word _ | .redirect .. =>
      push t
      simple n line {}
    | t =>
      let body ← compound n t
      let rs ← redirections n
      return if rs.isEmpty then body else .redirected line body rs

def pipeParts (fuel : Nat) (lines : Bool) : Reader (List Command) :=
  match fuel with
  | 0 => tooDeep
  | n + 1 => do
    let first ← command n lines
    let t ← next n false false
    if t.isOperator "|" then return first :: (← pipeParts n true)
    push t
    return [first]

def pipeline (fuel : Nat) (lines : Bool) : Reader Command :=
  match fuel with
  | 0 => tooDeep
  | n + 1 => do
    let t ← next n lines true
    let negated := t.isKeyword "!"
    if !negated then push t
    let body ← match ← pipeParts n false with
      | [only] => pure only
      | parts => pure (.pipeline parts)
    return if negated then .negation body else body

def chain (fuel : Nat) (first : Command) : Reader Command :=
  match fuel with
  | 0 => tooDeep
  | n + 1 => do
    let t ← next n false false
    if t.isOperator "&&" then chain n (.both first (← pipeline n true))
    else if t.isOperator "||" then chain n (.either first (← pipeline n true))
    else
      push t
      return first

def list (fuel : Nat) (bounds : Bounds) : Reader Command :=
  match fuel with
  | 0 => tooDeep
  | n + 1 => do
    match ← items n bounds with
    | [only] => return only
    | parts => return .series parts

def items (fuel : Nat) (bounds : Bounds) : Reader (List Command) :=
  match fuel with
  | 0 => tooDeep
  | n + 1 => do
    let t ← next n (bounds ≠ .line) true
    match t with
    | .lineEnd => return []
    | .endOfText =>
      push t
      return []
    | _ =>
      push t
      if bounds = .clause && t.closesList then return []
      let first ← chain n (← pipeline n false)
      let later := if bounds = .line then .line else .clause
      let t ← next n false false
      match t with
      | .operator "&" => return .background first :: (← items n later)
      | .operator ";" => return first :: (← items n later)
      | .lineEnd | .endOfText =>
        push t
        return first :: (← items n later)
      | _ =>
        if bounds = .line then unexpected t none
        push t
        return [first]

end

/-- Reads one line of commands; nothing at the end of the script. -/
def line? : Reader (Option Command) := do
  let fuel := 16 * (← rest).length + 64
  match ← next fuel false true with
  | .endOfText => return none
  | t =>
    push t
    return some (← list fuel .line)

end Reader

end MeshTestbed.Shell
