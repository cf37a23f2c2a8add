import MeshTestbed.Text.Number
import MeshTestbed.Yaml.Document

/-!
Taking a document apart. A decoder answers `none` for a node of the wrong shape. Text is taken as
it is written; numbers, truth values and null must be written plainly.
-/

namespace MeshTestbed.Yaml

def nullTag : List UInt8 := Text.encode "tag:yaml.org,2002:null"

def boolTag : List UInt8 := Text.encode "tag:yaml.org,2002:bool"

def intTag : List UInt8 := Text.encode "tag:yaml.org,2002:int"

def isNullWord (s : String) : Bool := ["null", "Null", "NULL", "~"].contains s

def boolOfWord? (s : String) : Option Bool :=
  if ["true", "True", "TRUE"].contains s then some true
  else if ["false", "False", "FALSE"].contains s then some false
  else none

/-- A number in base ten without leading zeros, or in another base after its mark, with an
optional plus sign. -/
def natOfWord? (s : String) : Option Nat :=
  let cs := match s.toList with
    | '+' :: rest => rest
    | cs => cs
  match cs with
  | '0' :: 'x' :: digits => Text.natOfBase 16 digits
  | '0' :: 'o' :: digits => Text.natOfBase 8 digits
  | '0' :: 'b' :: digits => Text.natOfBase 2 digits
  | '0' :: _ :: _ => none
  | digits => Text.natOfDigits digits

namespace Scalar

/-- Whether a scalar may stand for a value other than text: a plain one, or an indented one with
the tag of such values. -/
def isValue (tag : List UInt8) (s : Scalar) : Bool :=
  s.style == .plain || (s.style == .literal && s.tag == some tag)

/-- Whether nothing is given; null's own tag refuses any other word. -/
def isMissing? (s : Scalar) : Option Bool :=
  if s.style ≠ .plain then some false
  else match s.tag with
    | none => some (s.text.isEmpty || isNullWord s.text)
    | some tag =>
      if tag ≠ nullTag then some false else if isNullWord s.text then some true else none

def localTag? (s : Scalar) : Option String := do
  let mark :: name ← s.tag | none
  guard (mark = 33)
  String.fromUTF8? ⟨(if name.isEmpty then loneMark else name).toArray⟩

end Scalar

namespace Document

def scalar? (d : Document) (n : Node) : Option Scalar :=
  match d.follow n with
  | some (.scalar s) => some s
  | _ => none

def text? (d : Document) (n : Node) : Option String := (d.scalar? n).map (·.text)

def bool? (d : Document) (n : Node) : Option Bool :=
  ((d.scalar? n).filter (·.isValue boolTag)).bind fun s => boolOfWord? s.text

def natBelow? (bound : Nat) (d : Document) (n : Node) : Option Nat :=
  (((d.scalar? n).filter (·.isValue intTag)).bind fun s => natOfWord? s.text).filter (· < bound)

def uint32? (d : Document) (n : Node) : Option UInt32 :=
  (d.natBelow? UInt32.size n).map UInt32.ofNat

def uint64? (d : Document) (n : Node) : Option UInt64 :=
  (d.natBelow? UInt64.size n).map UInt64.ofNat

def word? (d : Document) (n : Node) : Option String := do
  let s ← d.scalar? n
  match s.localTag? with
  | none => some s.text
  | some name =>
    if s.style = .plain ∧ (s.text.isEmpty ∨ isNullWord s.text) then some name else none

def choice? {α : Type} (ofWord? : String → Option α) (d : Document) (n : Node) : Option α :=
  (d.word? n).bind ofWord?

def optional? {α : Type} (decode : Document → Node → Option α) (d : Document) (n : Node) :
    Option (Option α) :=
  match d.follow n with
  | some (.scalar s) => do if ← s.isMissing? then some none else (decode d n).map some
  | _ => (decode d n).map some

/-- A list and a mapping may be left empty, but not be given as null. -/
def isLeftEmpty (s : Scalar) : Bool := s.style == .plain && s.text.isEmpty

def list? {α : Type} (decode : Document → Node → Option α) (d : Document) (n : Node) :
    Option (List α) :=
  match d.follow n with
  | some (.items nodes) => nodes.mapM (decode d)
  | some (.scalar s) => if isLeftEmpty s then some [] else none
  | _ => none

def fields? (d : Document) (n : Node) : Option (List (String × Node)) :=
  match d.follow n with
  | some (.entries pairs) => pairs.mapM fun p => (d.text? p.1).map fun key => (key, p.2)
  | some (.scalar s) => if isLeftEmpty s then some [] else none
  | _ => none

def known? (keys : List String) (d : Document) (n : Node) : Option (List (String × Node)) :=
  (d.fields? n).filter fun fields => keys.all fun key => (fields.filter (·.1 = key)).length ≤ 1

/-- As `known?`, for a mapping that has no other keys. -/
def strict? (keys : List String) (d : Document) (n : Node) : Option (List (String × Node)) :=
  (d.known? keys n).filter fun fields => fields.all fun f => keys.contains f.1

def field {α : Type} (d : Document) (fields : List (String × Node)) (key : String) (default : α)
    (decode : Document → Node → Option α) : Option α :=
  match fields.lookup key with
  | none => some default
  | some n => decode d n

def required {α : Type} (d : Document) (fields : List (String × Node)) (key : String)
    (decode : Document → Node → Option α) : Option α :=
  (fields.lookup key).bind (decode d)

end Document

end MeshTestbed.Yaml
