import MeshTestbed.Yaml.Cursor

namespace MeshTestbed.Yaml

structure Gap where
  spaces : List Char := []
  /-- The first break; empty for a break that was escaped. -/
  first : Option (List Char) := none
  more : List Char := []

namespace Gap

/-- One break becomes a space and of several the first is dropped; a line or paragraph separator
stays. -/
def folded (first more : List Char) : List Char :=
  if first = ['\n'] then if more.isEmpty then [' '] else more else first ++ more

def text (g : Gap) : List Char :=
  match g.first with
  | none => g.spaces
  | some first => folded first g.more

def addBreak (b : List Char) (g : Gap) : Gap :=
  match g.first with
  | none => { g with spaces := [], first := some b }
  | some _ => { g with more := g.more ++ b }

def read (least fuel : Nat) (g : Gap) (c : Cursor) : Option (Gap × Cursor) :=
  match fuel, c.rest with
  | 0, _ => none
  | _, [] => some (g, c)
  | n + 1, ch :: _ =>
    if isSpace ch then
      if g.first.isNone then read least n { g with spaces := g.spaces ++ [ch] } (c.skip 1)
      else if ch = '\t' ∧ c.column < least then none
      else read least n g (c.skip 1)
    else if isBreak ch then
      let (b, c) := c.readBreak
      read least n (g.addBreak b) c
    else some (g, c)

end Gap

def Cursor.readGap (least : Nat) (g : Gap) (c : Cursor) : Option (Gap × Cursor) :=
  g.read least (c.rest.length + 1) c

end MeshTestbed.Yaml
