import MeshTestbed.Json
import MeshTestbed.Text.Lines
import MeshTestbed.Text.Number

namespace MeshTestbed.Json

def hexDigit (n : Nat) : Char := "0123456789abcdef".toList.getD n '0'

/-- Quotes, backslashes and control characters are escaped, the common ones by a letter. -/
def escapeChar (c : Char) : List Char :=
  match c with
  | '"' => ['\\', '"']
  | '\\' => ['\\', '\\']
  | '\n' => ['\\', 'n']
  | '\r' => ['\\', 'r']
  | '\t' => ['\\', 't']
  | '\x08' => ['\\', 'b']
  | '\x0c' => ['\\', 'f']
  | c =>
    if c.toNat < 0x20 then ['\\', 'u', '0', '0', hexDigit (c.toNat / 16), hexDigit (c.toNat % 16)]
    else [c]

def quoted (s : String) : String :=
  String.ofList ('"' :: s.toList.flatMap escapeChar ++ ['"'])

mutual

def compact : Json → String
  | null => "null"
  | bool b => if b then "true" else "false"
  | int n => Text.ofInt n
  | real m e => Text.ofInt m ++ "e" ++ Text.ofInt e
  | str s => quoted s
  | arr items => "[" ++ Text.joinWith "," (compactItems items) ++ "]"
  | obj members => "\x7b" ++ Text.joinWith "," (compactMembers members) ++ "\x7d"

def compactItems : List Json → List String
  | [] => []
  | v :: rest => compact v :: compactItems rest

def compactMembers : List (String × Json) → List String
  | [] => []
  | (k, v) :: rest => (quoted k ++ ":" ++ compact v) :: compactMembers rest

end

def newline (depth : Nat) : String := "\n" ++ String.ofList (List.replicate (2 * depth) ' ')

mutual

def pretty (depth : Nat) : Json → String
  | null => "null"
  | bool b => if b then "true" else "false"
  | int n => Text.ofInt n
  | real m e => Text.ofInt m ++ "e" ++ Text.ofInt e
  | str s => quoted s
  | arr [] => "[]"
  | arr (v :: rest) =>
    "[" ++ newline (depth + 1) ++
      Text.joinWith ("," ++ newline (depth + 1)) (prettyItems (depth + 1) (v :: rest)) ++
      newline depth ++ "]"
  | obj [] => "\x7b\x7d"
  | obj (m :: rest) =>
    "\x7b" ++ newline (depth + 1) ++
      Text.joinWith ("," ++ newline (depth + 1)) (prettyMembers (depth + 1) (m :: rest)) ++
      newline depth ++ "\x7d"

def prettyItems (depth : Nat) : List Json → List String
  | [] => []
  | v :: rest => pretty depth v :: prettyItems depth rest

def prettyMembers (depth : Nat) : List (String × Json) → List String
  | [] => []
  | (k, v) :: rest => (quoted k ++ ": " ++ pretty depth v) :: prettyMembers depth rest

end

end MeshTestbed.Json
