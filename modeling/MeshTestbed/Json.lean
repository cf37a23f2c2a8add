namespace MeshTestbed

inductive Json where
  | null
  | bool (b : Bool)
  | int (n : Int)
  /-- A number written with a fraction or an exponent: `mantissa · 10 ^ exponent`. -/
  | real (mantissa exponent : Int)
  | str (s : String)
  | arr (items : List Json)
  | obj (members : List (String × Json))

namespace Json

def nat (n : Nat) : Json := .int n

def strs (items : List String) : Json := .arr (items.map .str)

def ofOption {α : Type} (encode : α → Json) : Option α → Json
  | none => .null
  | some a => encode a

def optional {α : Type} (key : String) (encode : α → Json) : Option α → List (String × Json)
  | none => []
  | some a => [(key, encode a)]

def member (keep : Bool) (key : String) (value : Json) : List (String × Json) :=
  if keep then [(key, value)] else []

/-- The last member of that name. -/
def lookup (key : String) (members : List (String × Json)) : Option Json :=
  members.foldl (fun found m => if m.1 = key then some m.2 else found) none

def put (key : String) (value : Json) (members : List (String × Json)) : List (String × Json) :=
  if members.any (·.1 == key) then
    members.map fun m => if m.1 = key then (key, value) else m
  else members ++ [(key, value)]

end Json

end MeshTestbed
