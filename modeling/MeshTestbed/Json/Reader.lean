import MeshTestbed.Json
import MeshTestbed.Text.Number

/-!
Reads a data value from its text. Nesting is limited, a control character must be escaped inside a
string, surrogates must come in pairs, and of two members of one name the later one counts.
-/

namespace MeshTestbed.Json

def maxDepth : Nat := 127

def skipBlank (cs : List Char) : List Char :=
  cs.dropWhile fun c => c = ' ' || c = '\t' || c = '\n' || c = '\r'

def readUnit : List Char → Option (Nat × List Char)
  | a :: b :: c :: d :: rest => (Text.natOfBase 16 [a, b, c, d]).map fun n => (n, rest)
  | _ => none

def readEscape : List Char → Option (Char × List Char)
  | '"' :: rest => some ('"', rest)
  | '\\' :: rest => some ('\\', rest)
  | '/' :: rest => some ('/', rest)
  | 'b' :: rest => some ('\x08', rest)
  | 'f' :: rest => some ('\x0c', rest)
  | 'n' :: rest => some ('\n', rest)
  | 'r' :: rest => some ('\r', rest)
  | 't' :: rest => some ('\t', rest)
  | 'u' :: rest => do
    let (n, rest) ← readUnit rest
    if 0xd800 ≤ n ∧ n < 0xdc00 then
      match rest with
      | '\\' :: 'u' :: rest =>
        let (m, rest) ← readUnit rest
        if 0xdc00 ≤ m ∧ m < 0xe000 then
          some (Char.ofNat (0x10000 + (n - 0xd800) * 0x400 + (m - 0xdc00)), rest)
        else none
      | _ => none
    else if 0xdc00 ≤ n ∧ n < 0xe000 then none
    else some (Char.ofNat n, rest)
  | _ => none

/-- The rest of a string after its opening quote; `read` holds what was read, last first. -/
def readString (fuel : Nat) (read : List Char) (cs : List Char) : Option (String × List Char) :=
  match fuel, cs with
  | 0, _ => none
  | _, [] => none
  | _ + 1, '"' :: rest => some (String.ofList read.reverse, rest)
  | n + 1, '\\' :: rest => do
    let (c, rest) ← readEscape rest
    readString n (c :: read) rest
  | n + 1, c :: rest => if c.toNat < 0x20 then none else readString n (c :: read) rest

def inDoubleRange (mantissa exponent : Int) : Bool :=
  mantissa == 0 || ((Text.digitsOfNat mantissa.natAbs).length + exponent : Int) < 309 ||
    (exponent ≤ 400 &&
      (if 0 ≤ exponent then mantissa.natAbs * Nat.pow 10 exponent.toNat
        else mantissa.natAbs / Nat.pow 10 (-exponent).toNat) < Nat.pow 2 1024 - Nat.pow 2 970)

def readExponent (cs : List Char) : Option (Int × List Char) :=
  let signed (sign : Int) (rest : List Char) : Option (Int × List Char) :=
    let digits := rest.takeWhile Text.isDigit
    (Text.natOfDigits digits).map fun n => (sign * n, rest.drop digits.length)
  match cs with
  | '+' :: rest => signed 1 rest
  | '-' :: rest => signed (-1) rest
  | rest => signed 1 rest

/-- A number after its sign. Without fraction and exponent it is an integer, minus zero apart. -/
def readMagnitude (negative : Bool) (cs : List Char) : Option (Json × List Char) := do
  let whole := cs.takeWhile Text.isDigit
  let n ← Text.natOfDigits whole
  guard (whole.length = 1 ∨ whole.head? ≠ some '0')
  let rest := cs.drop whole.length
  let (mantissa, places, rest, fractional) ← match rest with
    | '.' :: after =>
      let digits := after.takeWhile Text.isDigit
      (Text.natOfDigits (whole ++ digits)).bind fun m =>
        if digits.isEmpty then none
        else some (m, digits.length, after.drop digits.length, true)
    | _ => some (n, 0, rest, false)
  let (exponent, rest, fractional) ← match rest with
    | 'e' :: after => (readExponent after).map fun p => (p.1, p.2, true)
    | 'E' :: after => (readExponent after).map fun p => (p.1, p.2, true)
    | _ => some (0, rest, fractional)
  let mantissa : Int := if negative then -mantissa else mantissa
  if fractional || (negative && n == 0) then
    if inDoubleRange mantissa (exponent - places) then
      some (.real mantissa (exponent - places), rest)
    else none
  else some (.int mantissa, rest)

def readWord (cs : List Char) : Option (Json × List Char) :=
  match cs with
  | 'n' :: 'u' :: 'l' :: 'l' :: rest => some (.null, rest)
  | 't' :: 'r' :: 'u' :: 'e' :: rest => some (.bool true, rest)
  | 'f' :: 'a' :: 'l' :: 's' :: 'e' :: rest => some (.bool false, rest)
  | _ => none

mutual

def readValue (fuel depth : Nat) (cs : List Char) : Option (Json × List Char) :=
  match fuel with
  | 0 => none
  | n + 1 =>
    match skipBlank cs with
    | '"' :: rest => (readString (rest.length + 1) [] rest).map fun p => (.str p.1, p.2)
    | '[' :: rest =>
      if depth = 0 then none
      else match skipBlank rest with
        | ']' :: rest => some (.arr [], rest)
        | rest => (readItems n (depth - 1) rest).map fun p => (.arr p.1, p.2)
    | '\x7b' :: rest =>
      if depth = 0 then none
      else match skipBlank rest with
        | '\x7d' :: rest => some (.obj [], rest)
        | rest => (readMembers n (depth - 1) [] rest).map fun p => (.obj p.1, p.2)
    | '-' :: rest => readMagnitude true rest
    | c :: rest => if Text.isDigit c then readMagnitude false (c :: rest) else readWord (c :: rest)
    | [] => none

def readItems (fuel depth : Nat) (cs : List Char) : Option (List Json × List Char) :=
  match fuel with
  | 0 => none
  | n + 1 => do
    let (v, rest) ← readValue n depth cs
    match skipBlank rest with
    | ',' :: rest => (readItems n depth rest).map fun p => (v :: p.1, p.2)
    | ']' :: rest => some ([v], rest)
    | _ => none

def readMembers (fuel depth : Nat) (read : List (String × Json)) (cs : List Char) :
    Option (List (String × Json) × List Char) :=
  match fuel with
  | 0 => none
  | n + 1 => do
    let .cons '"' rest := skipBlank cs | none
    let (key, rest) ← readString (rest.length + 1) [] rest
    let .cons ':' rest := skipBlank rest | none
    let (v, rest) ← readValue n depth rest
    let read := put key v read
    match skipBlank rest with
    | ',' :: rest => readMembers n depth read rest
    | '\x7d' :: rest => some (read, rest)
    | _ => none

end

def read? (s : String) : Option Json :=
  let cs := s.toList
  match readValue (2 * cs.length + 2) maxDepth cs with
  | some (v, rest) => if (skipBlank rest).isEmpty then some v else none
  | none => none

end MeshTestbed.Json
