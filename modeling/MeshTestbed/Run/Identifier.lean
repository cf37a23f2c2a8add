import MeshTestbed.Text.Lines
import MeshTestbed.Text.Number

namespace MeshTestbed

def hexDigits (count n : Nat) : List Char :=
  Text.padLeft count '0' (Nat.toDigits 16 (n % Nat.pow 16 count))

/-- The run of that number. Six bits say that the name is random, the others are the number's. -/
def runIdOf (n : Nat) : String :=
  let after (bits : Nat) : Nat := n >>> bits
  let version := 0x4000 + after 64 % 0x1000
  let variant := 0x8000 + after 48 % 0x4000
  let groups := [(8, after 96), (4, after 80), (4, version), (4, variant), (12, n)]
  Text.joinWith "-" (groups.map fun (count, part) => String.ofList (hexDigits count part))

end MeshTestbed
