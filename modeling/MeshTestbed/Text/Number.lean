namespace MeshTestbed.Text

def isDigit (c : Char) : Bool := '0' ≤ c && c ≤ '9'

def digitValue (c : Char) : Nat := c.toNat - '0'.toNat

/-- The number that a non-empty run of digits spells, leading zeros allowed. -/
def natOfDigits (cs : List Char) : Option Nat :=
  if cs ≠ [] ∧ cs.all isDigit then some (cs.foldl (fun n c => 10 * n + digitValue c) 0) else none

def natBelow (bound : Nat) (cs : List Char) : Option Nat :=
  (natOfDigits cs).filter (· < bound)

def digitsOfNat (n : Nat) : List Char := Nat.toDigits 10 n

def digitsOfInt : Int → List Char
  | .ofNat n => digitsOfNat n
  | .negSucc n => '-' :: digitsOfNat (n + 1)

def ofInt (n : Int) : String := String.ofList (digitsOfInt n)

def ofNat (n : Nat) : String := String.ofList (digitsOfNat n)

def padLeft (width : Nat) (c : Char) (cs : List Char) : List Char :=
  List.replicate (width - cs.length) c ++ cs

def hexValue (c : Char) : Option Nat :=
  if isDigit c then some (digitValue c)
  else if 'a' ≤ c ∧ c ≤ 'f' then some (c.toNat - 'a'.toNat + 10)
  else if 'A' ≤ c ∧ c ≤ 'F' then some (c.toNat - 'A'.toNat + 10)
  else none

/-- The number that digits of a base up to sixteen spell. -/
def natOfBase (base : Nat) (cs : List Char) : Option Nat :=
  if cs.isEmpty then none
  else cs.foldlM (fun n c => do
    let d ← hexValue c
    if d < base then some (base * n + d) else none) 0

end MeshTestbed.Text
