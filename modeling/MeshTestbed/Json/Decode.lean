import MeshTestbed.Json

/-!
Taking a data value apart. A decoder answers `none` for a value of the wrong shape. A record is an
object, or the list of its fields' values in their order; a choice is a word, or an object with that
word as its one key and null as the value.
-/

namespace MeshTestbed.Json

def text? : Json → Option String
  | str s => some s
  | _ => none

def bool? : Json → Option Bool
  | bool b => some b
  | _ => none

def intBetween? (low high : Int) : Json → Option Int
  | int n => if low ≤ n ∧ n < high then some n else none
  | _ => none

def natBelow? (bound : Nat) (v : Json) : Option Nat :=
  (v.intBetween? 0 bound).map Int.toNat

def uint32? (v : Json) : Option UInt32 := (v.natBelow? UInt32.size).map UInt32.ofNat

def uint64? (v : Json) : Option UInt64 := (v.natBelow? UInt64.size).map UInt64.ofNat

def int32? (v : Json) : Option Int32 := (v.intBetween? (-2147483648) 2147483648).map Int32.ofInt

def list? {α : Type} (decode : Json → Option α) : Json → Option (List α)
  | arr items => items.mapM decode
  | _ => none

def texts? : Json → Option (List String) := list? text?

def nullable? {α : Type} (decode : Json → Option α) : Json → Option (Option α)
  | null => some none
  | v => (decode v).map some

def members? : Json → Option (List (String × Json))
  | obj members => some members
  | _ => none

/-- The members of a record. A list of values must hold those of the fields `needed` and may hold
some of those that follow them. -/
def fields? (needed following : List String) : Json → Option (List (String × Json))
  | obj members => some members
  | arr items =>
    let names := needed ++ following
    if needed.length ≤ items.length ∧ items.length ≤ names.length then some (names.zip items)
    else none
  | _ => none

def strictFields? (needed following : List String) (v : Json) : Option (List (String × Json)) :=
  (v.fields? needed following).filter fun members =>
    members.all fun m => (needed ++ following).contains m.1

def word? : Json → Option String
  | str s => some s
  | obj [(s, null)] => some s
  | _ => none

def choice? {α : Type} (ofWord? : String → Option α) (v : Json) : Option α := v.word?.bind ofWord?

def required {α : Type} (members : List (String × Json)) (key : String)
    (decode : Json → Option α) : Option α :=
  (lookup key members).bind decode

/-- A member that may be missing, but not null. -/
def defaulted {α : Type} (members : List (String × Json)) (key : String) (default : α)
    (decode : Json → Option α) : Option α :=
  match lookup key members with
  | none => some default
  | some v => decode v

def tagged? (key : String) : Json → Option (String × Json)
  | obj members => (required members key text?).map fun tag => (tag, obj members)
  | arr (str tag :: items) => some (tag, arr items)
  | _ => none

/-- A member that may be missing or null. -/
def nullable {α : Type} (members : List (String × Json)) (key : String)
    (decode : Json → Option α) : Option (Option α) :=
  defaulted members key none (nullable? decode)

end MeshTestbed.Json
