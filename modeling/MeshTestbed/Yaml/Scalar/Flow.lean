import MeshTestbed.Text.Number
import MeshTestbed.Yaml.Scalar.Folding

namespace MeshTestbed.Yaml

/-- Whether a plain scalar ends before this: at a colon that ends a word, and inside brackets also
at what separates or closes. -/
def endsPlain (inFlow : Bool) : List Char → Bool
  | [] => true
  | ':' :: rest => atGap rest
  | c :: _ => inFlow && [',', '[', ']', '\x7b', '\x7d'].contains c

def isStrayColon (inFlow : Bool) : List Char → Bool
  | ':' :: c :: _ => inFlow && [',', '?', '[', ']', '\x7b', '\x7d'].contains c
  | _ => false

def plainRun (inFlow : Bool) : List Char → Option (List Char)
  | [] => some []
  | c :: rest =>
    if isSpace c || isBreak c then some []
    else if isStrayColon inFlow (c :: rest) then none
    else if endsPlain inFlow (c :: rest) then some []
    else (plainRun inFlow rest).map (c :: ·)

/-- A plain scalar read so far. `opensLine` tells that it ended with a line break. -/
structure PlainText where
  text : List Char := []
  gap : Gap := {}
  cursor : Cursor

def PlainText.opensLine (p : PlainText) : Bool := p.gap.first.isSome

/-- Goes on with a plain scalar. Outside brackets its lines must reach the column `least`. -/
def readPlainWith (inFlow : Bool) (least fuel : Nat) (p : PlainText) : Option PlainText :=
  match fuel with
  | 0 => none
  | n + 1 =>
    if p.cursor.atDocumentMark || p.cursor.next? = some '#' then some p
    else do
      let run ← plainRun inFlow p.cursor.rest
      let p : PlainText :=
        if run.isEmpty then p
        else { text := p.text ++ p.gap.text ++ run, cursor := p.cursor.skip run.length }
      if p.cursor.rest.isEmpty || !atGap p.cursor.rest then some p
      else
        let (gap, cursor) ← p.cursor.readGap least {}
        let p := { p with gap, cursor }
        if !inFlow ∧ cursor.column < least then some p
        else readPlainWith inFlow least n p

def readPlain (inFlow : Bool) (least : Nat) (c : Cursor) : Option PlainText :=
  readPlainWith inFlow least (c.rest.length + 1) { cursor := c }

def escaped? : Char → Option Char
  | '0' => some '\x00'
  | 'a' => some '\x07'
  | 'b' => some '\x08'
  | 't' | '\t' => some '\t'
  | 'n' => some '\n'
  | 'v' => some '\x0b'
  | 'f' => some '\x0c'
  | 'r' => some '\r'
  | 'e' => some '\x1b'
  | ' ' => some ' '
  | '"' => some '"'
  | '/' => some '/'
  | '\\' => some '\\'
  | 'N' => some '\x85'
  | '_' => some '\u00a0'
  | 'L' => some '\u2028'
  | 'P' => some '\u2029'
  | _ => none

def codeWidth? : Char → Option Nat
  | 'x' => some 2
  | 'u' => some 4
  | 'U' => some 8
  | _ => none

def readEscape : List Char → Option (Char × Nat)
  | [] => none
  | c :: rest =>
    match codeWidth? c with
    | none => (escaped? c).map fun e => (e, 1)
    | some width => do
      let digits := rest.take width
      guard (digits.length = width)
      let n ← Text.natOfBase 16 digits
      if h : n.isValidChar then some (Char.ofNatAux n h, 1 + width) else none

/-- The characters of a quoted scalar up to the next blank, its closing quote or the text's end,
and whether an escaped line break came right after them. -/
def readQuotedRun (double : Bool) (fuel : Nat) (run : List Char) (c : Cursor) :
    Option (List Char × Bool × Cursor) :=
  match fuel, c.rest with
  | 0, _ => none
  | _, [] => some (run.reverse, false, c)
  | n + 1, ch :: rest =>
    if isSpace ch || isBreak ch then some (run.reverse, false, c)
    else if double then
      if ch = '"' then some (run.reverse, false, c)
      else if ch = '\\' then
        if (rest.head?.map isBreak).getD false then
          some (run.reverse, true, (c.skip 1).skipBreak)
        else do
          let (e, length) ← readEscape rest
          readQuotedRun double n (e :: run) (c.skip (1 + length))
      else readQuotedRun double n (ch :: run) (c.skip 1)
    else if ch = '\'' then
      if rest.head? = some '\'' then readQuotedRun double n ('\'' :: run) (c.skip 2)
      else some (run.reverse, false, c)
    else readQuotedRun double n (ch :: run) (c.skip 1)

def readQuotedWith (double : Bool) (fuel : Nat) (text : List Char) (c : Cursor) :
    Option (List Char × Cursor) :=
  match fuel with
  | 0 => none
  | n + 1 =>
    if c.atDocumentMark || c.rest.isEmpty then none
    else do
      let (run, breaks, c) ← readQuotedRun double (c.rest.length + 1) [] c
      let text := text ++ run
      if c.next? = some (if double then '"' else '\'') then some (text, c.skip 1)
      else
        let (gap, c) ← c.readGap 0 { first := if breaks then some [] else none }
        readQuotedWith double n (text ++ gap.text) c

def readQuoted (double : Bool) (c : Cursor) : Option (List Char × Cursor) :=
  readQuotedWith double (c.rest.length + 1) [] (c.skip 1)

end MeshTestbed.Yaml
