import MeshTestbed.Text.Blank
import MeshTestbed.Text.Number

/-!
Points in time on the civil calendar, read from and written as `2024-03-01T10:00:00.5Z`. A leap
second is second 59 with a fraction of a second or more.
-/

namespace MeshTestbed

structure Stamp where
  day : Int
  second : Nat
  nanos : Nat
deriving DecidableEq

namespace Stamp

/-- Days from 1970-01-01 to a date of the proleptic Gregorian calendar; years start in March. -/
def dayNumber (year : Int) (month day : Nat) : Int :=
  let y := if month ≤ 2 then year - 1 else year
  let era := y.fdiv 400
  let yearOfEra := y - era * 400
  let monthIndex : Int := (month + 9) % 12
  let dayOfYear := (153 * monthIndex + 2) / 5 + day - 1
  era * 146097 + yearOfEra * 365 + yearOfEra / 4 - yearOfEra / 100 + dayOfYear - 719468

def isLeapYear (year : Int) : Bool :=
  year.emod 4 == 0 && (year.emod 100 != 0 || year.emod 400 == 0)

def monthLength (year : Int) (month : Nat) : Nat :=
  if month = 2 then (if isLeapYear year then 29 else 28)
  else if month ∈ [4, 6, 9, 11] then 30 else 31

def civil (dayNumber : Int) : Int × Nat × Nat :=
  let z := dayNumber + 719468
  let era := z.fdiv 146097
  let dayOfEra := z - era * 146097
  let yearOfEra := (dayOfEra - dayOfEra / 1460 + dayOfEra / 36524 - dayOfEra / 146096) / 365
  let dayOfYear := dayOfEra - (365 * yearOfEra + yearOfEra / 4 - yearOfEra / 100)
  let monthIndex := (5 * dayOfYear + 2) / 153
  let day := dayOfYear - (153 * monthIndex + 2) / 5 + 1
  let month := if monthIndex < 10 then monthIndex + 3 else monthIndex - 9
  let year := yearOfEra + era * 400 + (if month ≤ 2 then 1 else 0)
  (year, month.toNat, day.toNat)

/-- Milliseconds from `a` to `b`, cut toward zero. A leap second counts once it is over. -/
def millisBetween (a b : Stamp) : Int :=
  let leapOver : Int :=
    if b.second > a.second then (if 1000000000 ≤ a.nanos then 1 else 0)
    else if b.second < a.second then (if 1000000000 ≤ b.nanos then -1 else 0)
    else 0
  let secs : Int := (b.day - a.day) * 86400 + (b.second - a.second : Int) + leapOver
  (secs * 1000000000 + (b.nanos - a.nanos : Int)).tdiv 1000000

def addMillis (s : Stamp) (ms : Nat) : Stamp :=
  let nanos := s.nanos + ms % 1000 * 1000000
  let secs := s.second + ms / 1000 + nanos / 1000000000
  ⟨s.day + (secs / 86400 : Nat), secs % 86400, nanos % 1000000000⟩

def two (n : Nat) : List Char := Text.padLeft 2 '0' (Text.digitsOfNat n)

def renderYear (year : Int) : List Char :=
  if 0 ≤ year ∧ year ≤ 9999 then Text.padLeft 4 '0' (Text.digitsOfInt year)
  else (if year < 0 then '-' else '+') :: Text.padLeft 4 '0' (Text.digitsOfNat year.natAbs)

def renderFraction (nanos : Nat) : List Char :=
  if nanos = 0 then []
  else if nanos % 1000000 = 0 then '.' :: Text.padLeft 3 '0' (Text.digitsOfNat (nanos / 1000000))
  else if nanos % 1000 = 0 then '.' :: Text.padLeft 6 '0' (Text.digitsOfNat (nanos / 1000))
  else '.' :: Text.padLeft 9 '0' (Text.digitsOfNat nanos)

def render (s : Stamp) : String :=
  let (year, month, day) := civil s.day
  let second := s.second % 60 + s.nanos / 1000000000
  String.ofList <|
    renderYear year ++ '-' :: two month ++ '-' :: two day ++ 'T' :: two (s.second / 3600) ++
      ':' :: two (s.second / 60 % 60) ++ ':' :: two second ++
      renderFraction (s.nanos % 1000000000) ++ ['Z']

def number? (width : Nat) (cs : List Char) : Option (Nat × List Char) :=
  let cs := Text.trimStart cs
  let digits := (cs.take width).takeWhile Text.isDigit
  (Text.natOfDigits digits).map fun n => (n, cs.drop digits.length)

def year? (cs : List Char) : Option (Int × List Char) :=
  match Text.trimStart cs with
  | '-' :: rest => (signed rest).map fun p => (-p.1, p.2)
  | '+' :: rest => signed rest
  | rest => (number? 4 rest).map fun p => (p.1, p.2)
where
  signed (rest : List Char) : Option (Int × List Char) :=
    let digits := rest.takeWhile Text.isDigit
    (Text.natBelow (UInt64.size / 2) digits).map fun n => ((n : Int), rest.drop digits.length)

def mark? (c : Char) (cs : List Char) : Option (List Char) :=
  match Text.trimStart cs with
  | d :: rest => if d = c then some rest else none
  | [] => none

/-- Nanoseconds after a point; digits past the ninth are dropped. -/
def fraction? : List Char → Option (Nat × List Char)
  | '.' :: rest =>
    let digits := rest.takeWhile Text.isDigit
    let kept := digits.take 9
    (Text.natOfDigits kept).map fun n =>
      (n * Nat.pow 10 (9 - kept.length), rest.drop digits.length)
  | cs => some (0, cs)

def offset? (cs : List Char) : Option (Int × List Char) :=
  match Text.trimStart cs with
  | 'Z' :: rest => some (0, rest)
  | 'z' :: rest => some (0, rest)
  | '+' :: rest => hoursMinutes rest
  | '-' :: rest => (hoursMinutes rest).map fun p => (-p.1, p.2)
  | '\u2212' :: rest => (hoursMinutes rest).map fun p => (-p.1, p.2)
  | rest => if (rest.take 3).map Char.toUpper = ['U', 'T', 'C'] then some (0, rest.drop 3) else none
where
  twoDigits : List Char → Option (Int × List Char)
    | a :: b :: rest => (Text.natOfDigits [a, b]).map fun n => ((n : Int), rest)
    | _ => none
  hoursMinutes (cs : List Char) : Option (Int × List Char) := do
    let (h, rest) ← twoDigits cs
    let (m, rest) ← twoDigits (rest.dropWhile fun c => c = ':' || Text.isBlank c)
    if m < 60 ∧ h < 24 then some (h * 3600 + m * 60, rest) else none

def firstYear : Int := -262143

def lastYear : Int := 262142

def firstDay : Int := dayNumber firstYear 1 1

def lastDay : Int := dayNumber lastYear 12 31

/-- Reads a date, a time and an offset, with blanks allowed between the parts. Both the date that is
written and the one at Greenwich must be in the calendar. -/
def read? (s : String) : Option Stamp := do
  let (year, cs) ← year? s.toList
  let cs ← mark? '-' cs
  let (month, cs) ← number? 2 cs
  let cs ← mark? '-' cs
  let (day, cs) ← number? 2 cs
  let cs ← match cs with
    | c :: rest => if c = 'T' ∨ c = 't' ∨ c = ' ' then some rest else none
    | [] => none
  let (hour, cs) ← number? 2 cs
  let cs ← mark? ':' cs
  let (minute, cs) ← number? 2 cs
  let cs ← mark? ':' cs
  let (second, cs) ← number? 2 cs
  let (nanos, cs) ← fraction? cs
  let (offset, cs) ← offset? cs
  guard ((Text.trimStart cs).isEmpty)
  guard (firstYear ≤ year ∧ year ≤ lastYear ∧ 1 ≤ month ∧ month ≤ 12)
  guard (1 ≤ day ∧ day ≤ monthLength year month)
  guard (hour < 24 ∧ minute < 60 ∧ second ≤ 60)
  let leap : Nat := if second = 60 then 1 else 0
  let utc : Int := hour * 3600 + minute * 60 + (second - leap : Nat) - offset
  let utcDay := dayNumber year month day + utc.fdiv 86400
  guard (firstDay ≤ utcDay ∧ utcDay ≤ lastDay)
  some ⟨utcDay, (utc.fmod 86400).toNat, nanos + leap * 1000000000⟩

end Stamp

end MeshTestbed
