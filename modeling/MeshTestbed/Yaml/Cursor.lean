namespace MeshTestbed.Yaml

/-- What is left of the text, and where that starts: bytes before it, line and column. -/
structure Cursor where
  rest : List Char
  offset : Nat := 0
  line : Nat := 0
  column : Nat := 0

def isSpace (c : Char) : Bool := c = ' ' || c = '\t'

def isBreak (c : Char) : Bool :=
  c = '\n' || c = '\r' || c = '\x85' || c = '\u2028' || c = '\u2029'

def isWord (c : Char) : Bool := c.isAlphanum || c = '_' || c = '-'

/-- Whether the text is past, or goes on with a blank or a break. -/
def atGap : List Char → Bool
  | [] => true
  | c :: _ => isSpace c || isBreak c

def atBreak : List Char → Bool
  | [] => true
  | c :: _ => isBreak c

def isAllowed (c : Char) : Bool :=
  let n := c.toNat
  n == 0x9 || n == 0xa || n == 0xd || (0x20 ≤ n && n ≤ 0x7e) || n == 0x85 ||
    (0xa0 ≤ n && n ≤ 0xfffd) || 0x10000 ≤ n

namespace Cursor

def next? (c : Cursor) : Option Char := c.rest.head?

def bytes (n : Nat) (c : Cursor) : Nat := (String.ofList (c.rest.take n)).utf8ByteSize

def skip (n : Nat) (c : Cursor) : Cursor :=
  { c with rest := c.rest.drop n, offset := c.offset + c.bytes n, column := c.column + n }

def takeWhile (p : Char → Bool) (c : Cursor) : List Char × Cursor :=
  let taken := c.rest.takeWhile p
  (taken, c.skip taken.length)

def skipWhile (p : Char → Bool) (c : Cursor) : Cursor := (c.takeWhile p).2

/-- Reads one line break, a pair of carriage return and line feed included, as the text it counts
for; nothing if there is none. -/
def readBreak (c : Cursor) : List Char × Cursor :=
  let past (length : Nat) : Cursor :=
    { rest := c.rest.drop length, offset := c.offset + c.bytes length, line := c.line + 1
      column := 0 }
  match c.rest with
  | '\r' :: '\n' :: _ => (['\n'], past 2)
  | ch :: _ =>
    if ch = '\u2028' || ch = '\u2029' then ([ch], past 1)
    else if isBreak ch then (['\n'], past 1)
    else ([], c)
  | [] => ([], c)

def skipBreak (c : Cursor) : Cursor := c.readBreak.2

def atMark (mark : List Char) (c : Cursor) : Bool :=
  c.column = 0 && mark.isPrefixOf c.rest && atGap (c.rest.drop mark.length)

def atDocumentMark (c : Cursor) : Bool := c.atMark ['-', '-', '-'] || c.atMark ['.', '.', '.']

def finishLine? (c : Cursor) : Option Cursor :=
  let c := c.skipWhile isSpace
  let c := if c.next? = some '#' then c.skipWhile (!isBreak ·) else c
  if atBreak c.rest then some c.skipBreak else none

end Cursor

end MeshTestbed.Yaml
