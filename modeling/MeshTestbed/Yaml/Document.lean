import MeshTestbed.Yaml.Token.Layout

namespace MeshTestbed.Yaml

structure Anchored where
  place : Nat
  number : Nat
  node : Node

/-- The tokens that are left, the anchors and tag shorthands so far, and the anchored nodes. -/
structure Reading where
  tokens : List Token
  places : Nat := 0
  anchors : List (String × Nat) := []
  anchored : List Anchored := []
  handles : List (String × List UInt8) := []

abbrev Reader := StateT Reading Option

namespace Reader

def peek : Reader (Option Token) := return (← get).tokens.head?

def advance : Reader Unit := modify fun s => { s with tokens := s.tokens.drop 1 }

def refuse {α : Type} : Reader α := fun _ => none

def take? (t : Token) : Reader Bool := do
  if (← peek) = some t then
    advance
    return true
  else return false

def expect (t : Token) : Reader Unit := do
  if !(← take? t) then refuse

def nextIn (ts : List Token) : Reader Bool := do
  match ← peek with
  | some t => return ts.contains t
  | none => return false

def standardHandles : List (String × List UInt8) :=
  [("!", loneMark), ("!!", Text.encode "tag:yaml.org,2002:")]

def fullTag (handle : String) (suffix : List UInt8) : Reader (List UInt8) := do
  if handle.isEmpty then return suffix
  else match ((← get).handles ++ standardHandles).lookup handle with
    | some start => return start ++ suffix
    | none => refuse

/-- Gives an anchor a place and a number, which further references by its name mean. The number is
how many names there were before, so a name that comes again does not change the next one's. -/
def bind (name : String) : Reader (Nat × Nat) := do
  let s ← get
  let number := s.anchors.length
  set { s with
    places := s.places + 1, anchors := (name, number) :: s.anchors.filter (·.1 ≠ name) }
  return (s.places, number)

def numberOf (name : String) : Reader Nat := do
  match (← get).anchors.lookup name with
  | some number => return number
  | none => refuse

structure Properties where
  anchor : Option String := none
  tag : Option (String × List UInt8) := none

def Properties.isEmpty (p : Properties) : Bool := p.anchor.isNone && p.tag.isNone

def property (p : Properties) : Reader Properties := do
  match ← peek with
  | some (.anchor name) =>
    if p.anchor.isSome then return p
    else
      advance
      return { p with anchor := some name }
  | some (.tag handle suffix) =>
    if p.tag.isSome then return p
    else
      advance
      return { p with tag := some (handle, suffix) }
  | _ => return p

def properties : Reader Properties := do property (← property {})

def emptyScalar : Node := .scalar { text := "" }

def entryEnds : List Token := [.key, .value, .blockEnd]

mutual

/-- Reads a node; blocks may stand where `block` allows them, and a list that is not indented where
`flat` does. -/
def node (fuel : Nat) (block flat : Bool) : Reader Node :=
  match fuel with
  | 0 => refuse
  | n + 1 => do
    if let some (.reference name) ← peek then
      advance
      return .reference (← numberOf name)
    let p ← properties
    let tag ← p.tag.mapM fun t => fullTag t.1 t.2
    let bound ← p.anchor.mapM bind
    let found ← content n block flat tag p.isEmpty
    if let some (place, number) := bound then
      modify fun s => { s with anchored := ⟨place, number, found⟩ :: s.anchored }
    return found

def content (fuel : Nat) (block flat : Bool) (tag : Option (List UInt8)) (isBare : Bool) :
    Reader Node :=
  match fuel with
  | 0 => refuse
  | n + 1 => do
    match ← peek with
    | some (.scalar text style) =>
      advance
      return .scalar { text, style, tag }
    | some .flowItemsStart =>
      advance
      return .items (← flowItems n true)
    | some .flowEntriesStart =>
      advance
      return .entries (← flowEntries n true)
    | some .item =>
      if flat then return .items (← flatItems n)
      else if isBare then refuse
      else return .scalar { text := "", tag }
    | some .itemsStart =>
      if block then
        advance
        return .items (← blockItems n)
      else if isBare then refuse
      else return .scalar { text := "", tag }
    | some .entriesStart =>
      if block then
        advance
        return .entries (← blockEntries n)
      else if isBare then refuse
      else return .scalar { text := "", tag }
    | _ => if isBare then refuse else return .scalar { text := "", tag }

/-- A node, or an empty scalar where one of these tokens ends it at once. -/
def nodeUnless (fuel : Nat) (ends : List Token) (block flat : Bool) : Reader Node :=
  match fuel with
  | 0 => refuse
  | n + 1 => do if ← nextIn ends then return emptyScalar else node n block flat

def blockItems (fuel : Nat) : Reader (List Node) :=
  match fuel with
  | 0 => refuse
  | n + 1 => do
    if ← take? .item then
      let head ← nodeUnless n [.item, .blockEnd] true false
      return head :: (← blockItems n)
    else
      expect .blockEnd
      return []

def flatItems (fuel : Nat) : Reader (List Node) :=
  match fuel with
  | 0 => refuse
  | n + 1 => do
    if ← take? .item then
      let head ← nodeUnless n [.item, .key, .value, .blockEnd] true false
      return head :: (← flatItems n)
    else return []

def blockEntries (fuel : Nat) : Reader (List (Node × Node)) :=
  match fuel with
  | 0 => refuse
  | n + 1 => do
    if ← take? .key then
      let key ← nodeUnless n entryEnds true true
      let value ← if ← take? .value then nodeUnless n entryEnds true true else pure emptyScalar
      return (key, value) :: (← blockEntries n)
    else
      expect .blockEnd
      return []

def flowItems (fuel : Nat) (isFirst : Bool) : Reader (List Node) :=
  match fuel with
  | 0 => refuse
  | n + 1 => do
    if ← take? .flowItemsEnd then return []
    if !isFirst then expect .comma
    if ← take? .flowItemsEnd then return []
    let head ← if ← take? .key then flowPair n else node n false false
    return head :: (← flowItems n false)

/-- A list's item that is a key and its value without brackets. A key that is missing takes the
token after it along. -/
def flowPair (fuel : Nat) : Reader Node :=
  match fuel with
  | 0 => refuse
  | n + 1 => do
    let key ←
      if ← nextIn [.value, .comma, .flowItemsEnd] then
        advance
        pure emptyScalar
      else node n false false
    let value ←
      if ← take? .value then nodeUnless n [.comma, .flowItemsEnd] false false
      else pure emptyScalar
    return .entries [(key, value)]

def flowEntries (fuel : Nat) (isFirst : Bool) : Reader (List (Node × Node)) :=
  match fuel with
  | 0 => refuse
  | n + 1 => do
    if ← take? .flowEntriesEnd then return []
    if !isFirst then expect .comma
    if ← take? .flowEntriesEnd then return []
    let pair ←
      if ← take? .key then
        let key ← nodeUnless n [.value, .comma, .flowEntriesEnd] false false
        let value ←
          if ← take? .value then nodeUnless n [.comma, .flowEntriesEnd] false false
          else pure emptyScalar
        pure (key, value)
      else pure (← node n false false, emptyScalar)
    return pair :: (← flowEntries n false)

end

def directives (fuel : Nat) (versioned : Bool) : Reader Unit :=
  match fuel with
  | 0 => refuse
  | n + 1 => do
    match ← peek with
    | some (.version major minor) =>
      if versioned ∨ major ≠ 1 ∨ (minor ≠ 1 ∧ minor ≠ 2) then refuse
      advance
      directives n true
    | some (.tagHandle handle start) =>
      if ((← get).handles.lookup handle).isSome then refuse
      modify fun s => { s with handles := (handle, start) :: s.handles }
      advance
      directives n versioned
    | _ => return

def startsHeader : Option Token → Bool
  | some (.version _ _) | some (.tagHandle _ _) | some .documentStart => true
  | _ => false

/-- The root of the text's document. A header without content and an empty text have an empty
root. -/
def root (fuel : Nat) : Reader Node := do
  let next ← peek
  if next = none then return emptyScalar
  else if startsHeader next then
    directives fuel false
    expect .documentStart
    let next ← peek
    if next = none || next = some .documentEnd || startsHeader next then return emptyScalar
    else node fuel true false
  else node fuel true false

def skipEnds (fuel : Nat) : Reader Unit :=
  match fuel with
  | 0 => return
  | n + 1 => do if ← take? .documentEnd then skipEnds n

end Reader

def Document.ofText? (s : String) : Option Document := do
  let tokens ← Token.ofText? s
  let fuel := 4 * tokens.length + 4
  let (root, left) ← (Reader.root fuel).run { tokens }
  let ((), left) ← (Reader.skipEnds fuel).run left
  let anchored := (left.anchored.mergeSort fun a b => b.place ≤ a.place).map fun a =>
    (a.number, a.node)
  if left.tokens.isEmpty then some { root, anchored } else none

end MeshTestbed.Yaml
