/-!
Text as bytes. Bytes that are no text decode to the replacement character, one for each longest
start of a character that breaks off.
-/

namespace MeshTestbed.Text

/-- The ranges of the bytes that must follow a character's first byte; none for a byte that starts
no character. -/
def followers? (lead : Nat) : Option (List (Nat × Nat)) :=
  let tail : Nat × Nat := (0x80, 0xbf)
  if lead < 0x80 then some []
  else if 0xc2 ≤ lead ∧ lead ≤ 0xdf then some [tail]
  else if lead = 0xe0 then some [(0xa0, 0xbf), tail]
  else if lead = 0xed then some [(0x80, 0x9f), tail]
  else if 0xe1 ≤ lead ∧ lead ≤ 0xef then some [tail, tail]
  else if lead = 0xf0 then some [(0x90, 0xbf), tail, tail]
  else if 0xf1 ≤ lead ∧ lead ≤ 0xf3 then some [tail, tail, tail]
  else if lead = 0xf4 then some [(0x80, 0x8f), tail, tail]
  else none

def followed : List (Nat × Nat) → List UInt8 → Nat
  | (low, high) :: ranges, b :: bytes =>
    if low ≤ b.toNat ∧ b.toNat ≤ high then 1 + followed ranges bytes else 0
  | _, _ => 0

def leadBits (count lead : Nat) : Nat :=
  match count with
  | 0 => lead
  | 1 => lead - 0xc0
  | 2 => lead - 0xe0
  | _ => lead - 0xf0

def readUtf8 : List UInt8 → Option Char × Nat
  | [] => (none, 0)
  | lead :: bytes =>
    match followers? lead.toNat with
    | none => (none, 1)
    | some ranges =>
      let count := followed ranges bytes
      if count = ranges.length then
        let code := (bytes.take count).foldl (fun n b => 64 * n + (b.toNat - 0x80))
          (leadBits count lead.toNat)
        (some (Char.ofNat code), 1 + count)
      else (none, 1 + count)

def decodeWith (fuel : Nat) (bytes : List UInt8) : List Char :=
  match fuel, bytes with
  | 0, _ | _, [] => []
  | n + 1, b :: bytes =>
    let (c, length) := readUtf8 (b :: bytes)
    c.getD '\ufffd' :: decodeWith n ((b :: bytes).drop length)

def decode (bytes : List UInt8) : String := String.ofList (decodeWith bytes.length bytes)

def encode (s : String) : List UInt8 := s.toUTF8.toList

end MeshTestbed.Text
