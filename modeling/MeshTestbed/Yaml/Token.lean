import MeshTestbed.Text.Number
import MeshTestbed.Text.Utf8
import MeshTestbed.Yaml
import MeshTestbed.Yaml.Cursor

/-!
The tokens of a document. Indentation shows as tokens that open and close blocks, and a mapping's
key is announced before its text.
-/

namespace MeshTestbed.Yaml

inductive Token where
  | version (major minor : Nat)
  | tagHandle (handle : String) (start : List UInt8)
  | documentStart
  | documentEnd
  | itemsStart
  | entriesStart
  | blockEnd
  | flowItemsStart
  | flowItemsEnd
  | flowEntriesStart
  | flowEntriesEnd
  | item
  | comma
  | key
  | value
  | reference (name : String)
  | anchor (name : String)
  | tag (handle : String) (suffix : List UInt8)
  | scalar (text : String) (style : Style)
deriving DecidableEq

def readName (c : Cursor) : Option (String × Cursor) :=
  let (name, c) := (c.skip 1).takeWhile isWord
  let ends := ['?', ':', ',', ']', '\x7d', '%', '@', '\x60']
  if !name.isEmpty && (atGap c.rest || (c.next?.map ends.contains).getD false) then
    some (String.ofList name, c)
  else none

def isTagChar (verbatim : Bool) (c : Char) : Bool :=
  isWord c ||
    [';', '/', '?', ':', '@', '&', '=', '+', '$', '.', '%', '!', '~', '*', '\'', '(', ')'].contains
      c ||
    (verbatim && [',', '[', ']'].contains c)

def percentByte? : List Char → Option UInt8
  | '%' :: a :: b :: _ => (Text.natOfBase 16 [a, b]).map UInt8.ofNat
  | _ => none

def percentLength? (lead : UInt8) : Option Nat :=
  let n := lead.toNat
  if n < 0x80 then some 1
  else if n < 0xc0 then none
  else if n < 0xe0 then some 2
  else if n < 0xf0 then some 3
  else if n < 0xf8 then some 4
  else none

/-- Reads the bytes of a character that are spelled out. Whether they make up a character is not
looked at, but the right number of them must follow the first. -/
def readPercent (cs : List Char) : Option (List UInt8) := do
  let lead ← percentByte? cs
  let length ← percentLength? lead
  let followers ← (List.range (length - 1)).mapM fun i => percentByte? (cs.drop (3 * (i + 1)))
  if followers.all fun b => 0x80 ≤ b && b < 0xc0 then some (lead :: followers) else none

def readTagText (verbatim : Bool) (fuel : Nat) (read : List UInt8) (c : Cursor) :
    Option (List UInt8 × Cursor) :=
  match fuel, c.rest with
  | 0, _ => none
  | _, [] => some (read.reverse, c)
  | n + 1, ch :: _ =>
    if !isTagChar verbatim ch then some (read.reverse, c)
    else if ch = '%' then do
      let bytes ← readPercent c.rest
      readTagText verbatim n (bytes.reverse ++ read) (c.skip (3 * bytes.length))
    else readTagText verbatim n (ch.toUInt8 :: read) (c.skip 1)

def Cursor.readTagText (verbatim : Bool) (c : Cursor) : Option (List UInt8 × Cursor) :=
  Yaml.readTagText verbatim (c.rest.length + 1) [] c

/-- A zero byte ends what counts of a tag. -/
def tagBytes (text : List UInt8) : List UInt8 := text.takeWhile (· ≠ 0)

def readHandle (c : Cursor) : Option (List Char × Cursor) :=
  if c.next? ≠ some '!' then none
  else
    let (word, c) := (c.skip 1).takeWhile isWord
    if c.next? = some '!' then some ('!' :: (word ++ ['!']), c.skip 1) else some ('!' :: word, c)

def isFullHandle (handle : List Char) : Bool :=
  2 ≤ handle.length && handle.getLast? == some '!'

def loneMark : List UInt8 := [33]

/-- Reads a tag that starts here. A lone mark is a tag with neither handle nor name. -/
def readTag (inFlow : Bool) (c : Cursor) : Option (Token × Cursor) := do
  let (token, c) ←
    if c.rest.tail.head? = some '<' then do
      let (text, c) ← (c.skip 2).readTagText true
      guard (!text.isEmpty && c.next? == some '>')
      pure (Token.tag "" (tagBytes text), c.skip 1)
    else do
      let (handle, c) ← readHandle c
      let (text, c) ← c.readTagText false
      if isFullHandle handle then
        guard (!text.isEmpty)
        pure (Token.tag (String.ofList handle) (tagBytes text), c)
      else
        let suffix := tagBytes ((handle.drop 1).map Char.toUInt8 ++ text)
        if suffix.isEmpty then pure (Token.tag "" loneMark, c)
        else pure (Token.tag "!" suffix, c)
  guard (atGap c.rest || (inFlow && c.next? == some ','))
  some (token, c)

def readVersionNumber (c : Cursor) : Option (Nat × Cursor) :=
  let (digits, c) := c.takeWhile Text.isDigit
  if digits.length ≤ 9 then (Text.natOfDigits digits).map fun n => (n, c) else none

def readVersion (c : Cursor) : Option (Token × Cursor) := do
  let (major, c) ← readVersionNumber c
  guard (c.next? = some '.')
  let (minor, c) ← readVersionNumber (c.skip 1)
  some (.version major minor, c)

def readTagHandle (c : Cursor) : Option (Token × Cursor) := do
  let (handle, c) ← readHandle c
  guard (handle = ['!'] ∨ isFullHandle handle)
  guard (c.next?.any isSpace)
  let (start, c) ← (c.skipWhile isSpace).readTagText true
  guard (!start.isEmpty && atGap c.rest)
  some (.tagHandle (String.ofList handle) (tagBytes start), c)

def readDirective (c : Cursor) : Option (Token × Cursor) := do
  let (name, c) := (c.skip 1).takeWhile isWord
  guard (atGap c.rest)
  let c := c.skipWhile isSpace
  let (token, c) ←
    if name = ['Y', 'A', 'M', 'L'] then readVersion c
    else if name = ['T', 'A', 'G'] then readTagHandle c
    else none
  let c ← c.finishLine?
  some (token, c)

end MeshTestbed.Yaml
