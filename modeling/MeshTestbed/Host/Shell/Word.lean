import MeshTestbed.Host.Shell.Syntax
import MeshTestbed.Text.Number

/-!
Words of a script. The commands inside a word are read by a reader that the caller gives.
-/

namespace MeshTestbed.Shell

inductive Token where
  | endOfText
  | lineEnd
  | operator (s : String)
  | redirect (descriptor : Option Nat) (sign : String)
  | keyword (s : String)
  | word (w : Word)

structure Source where
  rest : List Char
  line : Nat := 1
  /-- A token read ahead. -/
  ahead : Option Token := none

structure Complaint where
  line : Nat
  text : String

abbrev Reader := StateT Source (Except Complaint)

namespace Reader

def refuse {α : Type} (text : String) : Reader α :=
  fun s => .error ⟨s.line, "Syntax error: " ++ text⟩

/-- A nesting deeper than the text is long, which no text has. -/
def tooDeep {α : Type} : Reader α := refuse "nested too deeply"

def rest : Reader (List Char) := return (← get).rest

def skip (n : Nat) : Reader Unit :=
  modify fun s =>
    { s with
      rest := s.rest.drop n
      line := s.line + ((s.rest.take n).filter (· = '\n')).length }

def take? (text : String) : Reader Bool := do
  if text.toList.isPrefixOf (← rest) then
    skip text.length
    return true
  else return false

def takeWhile (wanted : Char → Bool) : Reader String := do
  let run := (← rest).takeWhile wanted
  skip run.length
  return String.ofList run

def isMeta (c : Char) : Bool :=
  [' ', '\t', '\n', ';', '&', '|', '<', '>', '(', ')'].contains c

def isNameStart (c : Char) : Bool := c.isAlpha || c = '_'

def isNameChar (c : Char) : Bool := c.isAlphanum || c = '_'

def isName (s : String) : Bool :=
  (s.toList.head?.map isNameStart).getD false && s.toList.all isNameChar

def isSpecial (c : Char) : Bool :=
  Text.isDigit c || ['*', '@', '#', '?', '$', '!', '-'].contains c

def backquote : Char := '\x60'

def isEscapable (c : Char) : Bool := ['$', '"', '\\', backquote].contains c

/-- Characters that mean something in every part of a word that is not between single quotes. -/
def isActive (c : Char) : Bool := ['$', '\\', backquote].contains c

def parameterRule : Reader ParameterRule := do
  let colon ← take? ":"
  match ← rest with
  | '-' :: _ => skip 1; return .default colon
  | '=' :: _ => skip 1; return .assign colon
  | '?' :: _ => skip 1; return .demand colon
  | '+' :: _ => skip 1; return .instead colon
  | '\x7d' :: _ => if colon then refuse "Missing '\x7d'" else return .value
  | '#' :: '#' :: _ => skip 2; return if colon then .bad else .trim true true
  | '#' :: _ => skip 1; return if colon then .bad else .trim true false
  | '%' :: '%' :: _ => skip 2; return if colon then .bad else .trim false true
  | '%' :: _ => skip 1; return if colon then .bad else .trim false false
  | [] => refuse "Missing '\x7d'"
  | _ => return .bad

/-- The text between backquotes; a backslash goes before what would end it. -/
def backquoted (fuel : Nat) (quoted : Bool) : Reader (List Char) :=
  match fuel with
  | 0 => tooDeep
  | n + 1 => do
    match ← rest with
    | [] => refuse "EOF in backquote substitution"
    | '\\' :: c :: _ =>
      skip 2
      let escaped := c = '\\' || c = '$' || c = backquote || (quoted && c = '"')
      return (if escaped then [c] else ['\\', c]) ++ (← backquoted n quoted)
    | c :: _ =>
      skip 1
      if c = backquote then return [] else return c :: (← backquoted n quoted)

inductive Extent where
  | word
  | brace
  | quote
  | text
deriving DecidableEq

/-- Whether a character ends the run. -/
def Extent.endsAt (e : Extent) (quoted : Bool) (c : Char) : Bool :=
  match e with
  | word => isMeta c
  | brace => c = '\x7d' || (c = '\n' && !quoted)
  | quote => c = '"'
  | text => false

variable (commands : (closed : Bool) → Reader Command)

mutual

def dollar (fuel : Nat) (quoted : Bool) : Reader Piece :=
  match fuel with
  | 0 => tooDeep
  | n + 1 => do
    match ← rest with
    | '(' :: '(' :: _ =>
      skip 2
      return .arithmetic quoted (← arithmetic n 0)
    | '(' :: _ =>
      skip 1
      return .output quoted (← commands true)
    | '\x7b' :: _ =>
      skip 1
      braced n quoted
    | c :: _ =>
      if isSpecial c then
        skip 1
        return .parameter quoted (String.ofList [c]) .value []
      else if isNameStart c then
        return .parameter quoted (← takeWhile isNameChar) .value []
      else return .text quoted "$"
    | [] => return .text quoted "$"

def braced (fuel : Nat) (quoted : Bool) : Reader Piece :=
  match fuel with
  | 0 => tooDeep
  | n + 1 => do
    let wantsLength := match ← rest with
      | '#' :: c :: _ => isNameStart c || isSpecial c
      | _ => false
    if wantsLength then skip 1
    let name ← match ← rest with
      | c :: _ =>
        if isNameStart c then takeWhile isNameChar
        else if Text.isDigit c then takeWhile Text.isDigit
        else if isSpecial c then do skip 1; pure (String.ofList [c])
        else pure ""
      | [] => refuse "Missing '\x7d'"
    let rule ← if name.isEmpty then pure .bad else parameterRule
    let word ← pieces n quoted .brace
    if !(← take? "\x7d") then refuse "Missing '\x7d'"
    let rule := if wantsLength then (if rule = .value then .length else .bad) else rule
    return .parameter quoted name rule word

def arithmetic (fuel : Nat) (depth : Nat) : Reader Word :=
  match fuel with
  | 0 => tooDeep
  | n + 1 => do
    match ← rest with
    | [] => refuse "Missing '))'"
    | ')' :: ')' :: _ =>
      if depth = 0 then
        skip 2
        return []
      else
        skip 1
        return .text true ")" :: (← arithmetic n (depth - 1))
    | ')' :: _ =>
      if depth = 0 then refuse "Missing '))'"
      skip 1
      return .text true ")" :: (← arithmetic n (depth - 1))
    | '(' :: _ =>
      skip 1
      return .text true "(" :: (← arithmetic n (depth + 1))
    | c :: _ =>
      if isActive c then
        let piece ← active n true
        return piece ++ (← arithmetic n depth)
      else
        let run ← takeWhile fun c => !isActive c && c != '(' && c != ')'
        return .text true run :: (← arithmetic n depth)

def active (fuel : Nat) (quoted : Bool) : Reader Word :=
  match fuel with
  | 0 => tooDeep
  | n + 1 => do
    match ← rest with
    | '$' :: _ =>
      skip 1
      return [← dollar n quoted]
    | '\\' :: '\n' :: _ =>
      skip 2
      return []
    | '\\' :: c :: _ =>
      skip 2
      return [.text true (String.ofList (if quoted && !isEscapable c then ['\\', c] else [c]))]
    | '\\' :: [] =>
      skip 1
      return [.text true "\\"]
    | c :: _ =>
      skip 1
      if c = backquote then
        let line := (← get).line
        let inner ← backquoted n quoted
        let (body, _) ← (commands false).run { rest := inner, line }
        return [.output quoted body]
      else return []
    | [] => return []

def pieces (fuel : Nat) (quoted : Bool) (extent : Extent) : Reader Word :=
  match fuel with
  | 0 => tooDeep
  | n + 1 => do
    match ← rest with
    | [] => if extent = .quote then refuse "Unterminated quoted string" else return []
    | c :: cs =>
      if extent.endsAt quoted c then return []
      else if extent = .text && c = '\\' && cs.head? = some '"' then
        skip 2
        return .text true "\\\"" :: (← pieces n quoted extent)
      else if isActive c then
        let piece ← active n quoted
        return piece ++ (← pieces n quoted extent)
      else if c = '"' && extent ≠ .text then
        skip 1
        let inner ← pieces n true .quote
        skip 1
        let inner := if inner.isEmpty then [.text true ""] else inner
        return inner ++ (← pieces n quoted extent)
      else if c = '\'' && !quoted then
        let run := cs.takeWhile (· ≠ '\'')
        skip (run.length + 1)
        if run.length = cs.length then refuse "Unterminated quoted string"
        skip 1
        return .text true (String.ofList run) :: (← pieces n quoted extent)
      else
        let run ← takeWhile fun c =>
          !extent.endsAt quoted c && !isActive c && c != '"' && (quoted || c != '\'')
        let run ← if run.isEmpty then do skip 1; pure (String.ofList [c]) else pure run
        return .text quoted run :: (← pieces n quoted extent)

end

end Reader

end MeshTestbed.Shell
