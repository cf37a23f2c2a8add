import MeshTestbed.Text.Number

namespace MeshTestbed

structure Span where
  secs : UInt64
  nanos : Fin 1000000000
deriving DecidableEq

namespace Span

def ofSecs (secs : UInt64) : Span := ⟨secs, 0⟩

def ofMillis (ms : UInt64) : Span :=
  ⟨ms / 1000, Fin.ofNat _ (ms.toNat % 1000 * 1000000)⟩

/-- Nanoseconds past a second carry over; `none` when the seconds pass 2^64. -/
def ofParts? (secs nanos : Nat) : Option Span :=
  let total := secs + nanos / 1000000000
  if total < UInt64.size then some ⟨UInt64.ofNat total, Fin.ofNat _ nanos⟩ else none

def toNanos (s : Span) : Nat := s.secs.toNat * 1000000000 + s.nanos.val

/-- The number of whole milliseconds a sleep of this length takes: a part of one counts as one. -/
def ceilMillis (s : Span) : Nat := (s.toNanos + 999999) / 1000000

def isZero (s : Span) : Bool := s.toNanos == 0

def decimal (whole fraction places : Nat) : List Char :=
  let digits := (Text.padLeft places '0' (Text.digitsOfNat fraction)).reverse.dropWhile (· = '0')
  if fraction = 0 then Text.digitsOfNat whole
  else Text.digitsOfNat whole ++ '.' :: digits.reverse

def render (s : Span) : String :=
  let n := s.nanos.val
  String.ofList <|
    if s.secs ≠ 0 then decimal s.secs.toNat n 9 ++ ['s']
    else if 1000000 ≤ n then decimal (n / 1000000) (n % 1000000) 6 ++ ['m', 's']
    else if 1000 ≤ n then decimal (n / 1000) (n % 1000) 3 ++ ['µ', 's']
    else decimal n 0 0 ++ ['n', 's']

end Span

end MeshTestbed
