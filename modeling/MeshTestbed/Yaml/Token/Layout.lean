import MeshTestbed.Yaml.Scalar.Block
import MeshTestbed.Yaml.Scalar.Flow
import MeshTestbed.Yaml.Token

/-!
Tokens from text. The columns in which lines start become tokens around blocks, and a scalar turns
out to be a key when a colon follows it on its line.
-/

namespace MeshTestbed.Yaml

structure PendingKey where
  place : Nat
  offset : Nat
  line : Nat
  column : Nat
  /-- Nothing but a key can stand there. -/
  isNeeded : Bool

structure Layout where
  cursor : Cursor
  tokens : Array Token := #[]
  /-- The column of the innermost block, -1 outside all blocks. -/
  indent : Int := -1
  outerIndents : List Int := []
  pending : Option PendingKey := none
  outerPending : List (Option PendingKey) := []
  allowsKey : Bool := true

/-- A key is on one line and has at most so many bytes. -/
def maxKeyBytes : Nat := 1024

namespace Layout

def inFlow (l : Layout) : Bool := !l.outerPending.isEmpty

def push (t : Token) (l : Layout) : Layout := { l with tokens := l.tokens.push t }

def indicator (t : Token) (n : Nat) (l : Layout) : Layout :=
  { l.push t with cursor := l.cursor.skip n }

/-- Skips blanks, comments and line breaks. A tab counts as a blank where no key can start, and a
byte order mark does at the start of a line. -/
def skipIdle (fuel : Nat) (l : Layout) : Layout :=
  match fuel with
  | 0 => l
  | n + 1 =>
    match l.cursor.next? with
    | none => l
    | some c =>
      let isMark := c = '\ufeff' && l.cursor.column == 0
      let isBlank := c = ' ' || (c = '\t' && (l.inFlow || !l.allowsKey))
      if isMark || isBlank then
        skipIdle n { l with cursor := l.cursor.skip 1 }
      else if c = '#' then skipIdle n { l with cursor := l.cursor.skipWhile (!isBreak ·) }
      else if isBreak c then
        skipIdle n { l with cursor := l.cursor.skipBreak, allowsKey := l.allowsKey || !l.inFlow }
      else l

/-- Gives up a key whose colon has not come in time; fails if nothing but a key was possible. -/
def expire? (c : Cursor) : Option PendingKey → Option (Option PendingKey)
  | none => some none
  | some k =>
    if k.line < c.line ∨ k.offset + maxKeyBytes < c.offset then
      if k.isNeeded then none else some none
    else some (some k)

def expireKeys (l : Layout) : Option Layout := do
  let pending ← expire? l.cursor l.pending
  let outerPending ← l.outerPending.mapM (expire? l.cursor)
  some { l with pending, outerPending }

def dropKey (l : Layout) : Option Layout :=
  if l.pending.any (·.isNeeded) then none else some { l with pending := none }

def saveKey (l : Layout) : Option Layout :=
  if !l.allowsKey then some l
  else do
    let l ← l.dropKey
    let c := l.cursor
    some { l with
      pending := some
        { place := l.tokens.size, offset := c.offset, line := c.line, column := c.column
          isNeeded := !l.inFlow && l.indent == c.column } }

/-- Opens a block in a column beyond the current one, its token at `place`. -/
def openBlock (column place : Nat) (t : Token) (l : Layout) : Layout :=
  if l.inFlow ∨ (column : Int) ≤ l.indent then l
  else
    { l with
      tokens := l.tokens.insertIdxIfInBounds place t
      outerIndents := l.indent :: l.outerIndents
      indent := column }

def closing (column indent : Int) : List Int → Int × List Int × Nat
  | [] => (indent, [], 0)
  | outer :: rest =>
    if column < indent then
      let (indent, outers, count) := closing column outer rest
      (indent, outers, count + 1)
    else (indent, outer :: rest, 0)

def closeBlocks (column : Int) (l : Layout) : Layout :=
  if l.inFlow then l
  else
    let (indent, outerIndents, count) := closing column l.indent l.outerIndents
    { l with
      tokens := l.tokens ++ (List.replicate count Token.blockEnd).toArray
      indent, outerIndents }

def readDocumentMark (t : Token) (l : Layout) : Option Layout := do
  let l ← (l.closeBlocks (-1)).dropKey
  some { l.indicator t 3 with allowsKey := false }

def readDirectiveLine (l : Layout) : Option Layout := do
  let l ← (l.closeBlocks (-1)).dropKey
  let (t, cursor) ← readDirective l.cursor
  some { l.push t with cursor, allowsKey := false }

def openFlow (t : Token) (l : Layout) : Option Layout := do
  let l ← l.saveKey
  some { l.indicator t 1 with
    pending := none, outerPending := l.pending :: l.outerPending, allowsKey := true }

def closeFlow (t : Token) (l : Layout) : Option Layout := do
  let l ← l.dropKey
  some <| match l.outerPending with
    | [] => { l.indicator t 1 with allowsKey := false }
    | pending :: outerPending =>
      { l.indicator t 1 with pending, outerPending, allowsKey := false }

def readComma (l : Layout) : Option Layout := do
  let l ← l.dropKey
  some { l.indicator .comma 1 with allowsKey := true }

def readItem (l : Layout) : Option Layout := do
  guard (l.inFlow || l.allowsKey)
  let l ← (l.openBlock l.cursor.column l.tokens.size .itemsStart).dropKey
  some { l.indicator .item 1 with allowsKey := true }

def readKeyMark (l : Layout) : Option Layout := do
  guard (l.inFlow || l.allowsKey)
  let l ← (l.openBlock l.cursor.column l.tokens.size .entriesStart).dropKey
  some { l.indicator .key 1 with allowsKey := !l.inFlow }

/-- Reads the colon between key and value, and announces the key if it was pending. -/
def readValueMark (l : Layout) : Option Layout :=
  match l.pending with
  | some k =>
    let l := { l with tokens := l.tokens.insertIdxIfInBounds k.place .key }
    let l := l.openBlock k.column k.place .entriesStart
    some { l.indicator .value 1 with pending := none, allowsKey := false }
  | none => do
    guard (l.inFlow || l.allowsKey)
    let l := l.openBlock l.cursor.column l.tokens.size .entriesStart
    some { l.indicator .value 1 with allowsKey := !l.inFlow }

def readNamed (token : String → Token) (l : Layout) : Option Layout := do
  let l ← l.saveKey
  let (name, cursor) ← readName l.cursor
  some { l.push (token name) with cursor, allowsKey := false }

def readTagToken (l : Layout) : Option Layout := do
  let l ← l.saveKey
  let (t, cursor) ← readTag l.inFlow l.cursor
  some { l.push t with cursor, allowsKey := false }

def readBlockToken (folds : Bool) (l : Layout) : Option Layout := do
  let l ← l.dropKey
  let (text, cursor) ← readBlock folds l.indent l.cursor
  let style := if folds then Style.folded else .literal
  some { l.push (.scalar (String.ofList text) style) with cursor, allowsKey := true }

def readQuotedToken (double : Bool) (l : Layout) : Option Layout := do
  let l ← l.saveKey
  let (text, cursor) ← readQuoted double l.cursor
  some { l.push (.scalar (String.ofList text) .quoted) with cursor, allowsKey := false }

def readPlainToken (l : Layout) : Option Layout := do
  let l ← l.saveKey
  let p ← readPlain l.inFlow (l.indent + 1).toNat l.cursor
  some { l.push (.scalar (String.ofList p.text) .plain) with
    cursor := p.cursor, allowsKey := p.opensLine }

def isIndicator (c : Char) : Bool :=
  ",[]\x7b\x7d#&*!|>'\"%@\x60".toList.contains c

def startsPlain (inFlow : Bool) : List Char → Bool
  | [] => false
  | '-' :: rest => !(rest.head?.any isSpace)
  | '?' :: rest => !inFlow && !atGap rest
  | ':' :: rest => !inFlow && !atGap rest
  | c :: _ => !(isSpace c || isBreak c || isIndicator c)

def readToken (l : Layout) : Option Layout :=
  let c := l.cursor
  let marks := l.inFlow || atGap c.rest.tail
  if c.column = 0 ∧ c.next? = some '%' then l.readDirectiveLine
  else if c.atMark ['-', '-', '-'] then l.readDocumentMark .documentStart
  else if c.atMark ['.', '.', '.'] then l.readDocumentMark .documentEnd
  else match c.next? with
    | some '[' => l.openFlow .flowItemsStart
    | some '\x7b' => l.openFlow .flowEntriesStart
    | some ']' => l.closeFlow .flowItemsEnd
    | some '\x7d' => l.closeFlow .flowEntriesEnd
    | some ',' => l.readComma
    | some '*' => l.readNamed .reference
    | some '&' => l.readNamed .anchor
    | some '!' => l.readTagToken
    | some '\'' => l.readQuotedToken false
    | some '"' => l.readQuotedToken true
    | some ch =>
      if ch = '-' ∧ atGap c.rest.tail then l.readItem
      else if ch = '?' ∧ marks then l.readKeyMark
      else if ch = ':' ∧ marks then l.readValueMark
      else if ch = '|' ∧ !l.inFlow then l.readBlockToken false
      else if ch = '>' ∧ !l.inFlow then l.readBlockToken true
      else if startsPlain l.inFlow c.rest then l.readPlainToken
      else none
    | none => none

def readTokens (fuel : Nat) (l : Layout) : Option (List Token) :=
  match fuel with
  | 0 => none
  | n + 1 => do
    let l ← (l.skipIdle (l.cursor.rest.length + 1)).expireKeys
    let l := l.closeBlocks l.cursor.column
    if l.cursor.rest.isEmpty then
      let l ← (l.closeBlocks (-1)).dropKey
      some l.tokens.toList
    else readTokens n (← l.readToken)

end Layout

def Token.ofText? (s : String) : Option (List Token) :=
  let cs := s.toList
  if cs.all isAllowed then Layout.readTokens (cs.length + 1) { cursor := { rest := cs } } else none

end MeshTestbed.Yaml
