import MeshTestbed.Text.Number
import MeshTestbed.Yaml.Cursor

namespace MeshTestbed.Yaml

/-- What stays of the breaks at the end: none, the first, or all. -/
inductive Chomping where
  | strip
  | clip
  | keep
deriving DecidableEq

structure BlockHeader where
  chomping : Chomping := .clip
  increment : Option Nat := none

def chomping? : Char → Option Chomping
  | '+' => some .keep
  | '-' => some .strip
  | _ => none

def readIncrement (c : Cursor) : Option (Option Nat × Cursor) :=
  match c.rest with
  | ch :: _ =>
    if !Text.isDigit ch then some (none, c)
    else if ch = '0' then none
    else some (some (Text.digitValue ch), c.skip 1)
  | [] => some (none, c)

def readChomping (c : Cursor) : Option Chomping × Cursor :=
  match c.next?.bind chomping? with
  | some chomping => (some chomping, c.skip 1)
  | none => (none, c)

def readBlockHeader (c : Cursor) : Option (BlockHeader × Cursor) :=
  match readChomping c with
  | (some chomping, c) => do
    let (increment, c) ← readIncrement c
    some ({ chomping, increment }, c)
  | (none, c) => do
    let (increment, c) ← readIncrement c
    match increment with
    | none => some ({}, c)
    | some _ =>
      let (chomping, c) := readChomping c
      some ({ chomping := chomping.getD .clip, increment }, c)

/-- Skips empty lines and the next line's indentation, at most `indent` columns of it if that is
known. Answers the breaks, the widest indentation seen, and the place. -/
def readEmptyLines (indent : Option Nat) (fuel widest : Nat) (breaks : List Char) (c : Cursor) :
    Option (List Char × Nat × Cursor) :=
  match fuel with
  | 0 => none
  | n + 1 =>
    let spaces := (c.rest.takeWhile (· = ' ')).length
    let c := c.skip <| match indent with
      | none => spaces
      | some i => min spaces (i - c.column)
    let widest := max widest c.column
    if c.next? = some '\t' ∧ indent.all (c.column < ·) then none
    else if (c.next?.map isBreak).getD false then
      let (b, c) := c.readBreak
      readEmptyLines indent n widest (breaks ++ b) c
    else some (breaks, widest, c)

structure BlockText where
  text : List Char := []
  lastBreak : List Char := []
  breaks : List Char
  startsBlank : Bool := false

/-- Between two folded lines that start with no blank one break becomes a space, or nothing if
empty lines follow. -/
def BlockText.addLine (folds : Bool) (line : List Char) (b : BlockText) : BlockText :=
  let blank := (line.head?.map isSpace).getD false
  let joint :=
    if folds && b.lastBreak == ['\n'] && !b.startsBlank && !blank then
      if b.breaks.isEmpty then [' '] else []
    else b.lastBreak
  { text := b.text ++ joint ++ b.breaks ++ line, breaks := [], startsBlank := blank }

def BlockText.chomped (chomping : Chomping) (b : BlockText) : List Char :=
  match chomping with
  | .strip => b.text
  | .clip => b.text ++ b.lastBreak
  | .keep => b.text ++ b.lastBreak ++ b.breaks

def readBlockLines (folds : Bool) (indent fuel : Nat) (b : BlockText) (c : Cursor) :
    Option (BlockText × Cursor) :=
  match fuel with
  | 0 => none
  | n + 1 =>
    if c.column ≠ indent ∨ c.rest.isEmpty then some (b, c)
    else do
      let (line, c) := c.takeWhile (!isBreak ·)
      let (lastBreak, c) := c.readBreak
      let (breaks, _, c) ← readEmptyLines (some indent) (c.rest.length + 1) 0 [] c
      readBlockLines folds indent n { b.addLine folds line with lastBreak, breaks } c

/-- Reads a block scalar that starts here, inside a block indented by `outer` columns (-1 for the
document itself). -/
def readBlock (folds : Bool) (outer : Int) (c : Cursor) : Option (List Char × Cursor) := do
  let (header, c) ← readBlockHeader (c.skip 1)
  let c ← c.finishLine?
  let given := header.increment.map fun i => (max outer 0).toNat + i
  let (breaks, widest, c) ← readEmptyLines given (c.rest.length + 1) 0 [] c
  let indent := given.getD (max widest (max (outer + 1).toNat 1))
  let (b, c) ← readBlockLines folds indent (c.rest.length + 1) { breaks } c
  some (b.chomped header.chomping, c)

end MeshTestbed.Yaml
