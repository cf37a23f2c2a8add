import MeshTestbed.Host.Outcome

namespace MeshTestbed.Host

structure Conversion where
  flags : List Char := []
  width : Nat := 0
  precision : Option Nat := none

structure Printing where
  args : List String
  out : List UInt8 := []
  err : String := ""
  status : Nat := 0
  stops : Bool := false

namespace Printing

def put (bytes : List UInt8) (p : Printing) : Printing := { p with out := p.out ++ bytes }

def complain (v : Voice) (message : String) (p : Printing) : Printing :=
  { p with err := p.err ++ v.line message, status := 1 }

def fail (v : Voice) (status : Nat) (message : String) (p : Printing) : Printing :=
  { p with err := p.err ++ v.line message, status, stops := true }

def take (p : Printing) : String × Printing := (p.args.headD "", { p with args := p.args.drop 1 })

end Printing

inductive NumeralFault where
  | none
  | notNumeric
  | trailing
  | outOfRange
deriving DecidableEq

/-- The number that an argument is. A quote before a character makes it the character's byte. -/
def readNumeral (s : String) : Int × NumeralFault :=
  match s.toList with
  | '\'' :: c :: _ | '"' :: c :: _ =>
    (((Text.encode (String.ofList [c])).headD 0).toNat, .none)
  | ['\''] | ['"'] => (0, .none)
  | cs =>
    let cs := cs.dropWhile fun c => c = ' ' ∨ c = '\t' ∨ c = '\n'
    let (negative, digits) := match cs with
      | '-' :: rest => (true, rest)
      | '+' :: rest => (false, rest)
      | _ => (false, cs)
    let inBase (start base : Nat) : Option (Nat × Nat) :=
      let run := (digits.drop start).takeWhile fun c =>
        ((Text.hexValue c).map fun d => decide (d < base)).getD false
      (Text.natOfBase base run).map fun n => (n, start + run.length)
    let read := match digits with
      | '0' :: 'x' :: _ | '0' :: 'X' :: _ => (inBase 2 16).or (some (0, 1))
      | '0' :: _ => inBase 0 8
      | _ => inBase 0 10
    match read with
    | none => (0, if s.isEmpty then .none else .notNumeric)
    | some (n, length) =>
      let limit := if negative then UInt64.size / 2 else UInt64.size / 2 - 1
      let value : Int := if negative then -(min n limit : Nat) else (min n limit : Nat)
      (value,
        if length < digits.length then .trailing
        else if limit < n then .outOfRange
        else .none)

def NumeralFault.tell (v : Voice) (s : String) (f : NumeralFault) (p : Printing) : Printing :=
  let subject := if v.inShell then s else inQuotes s
  match f with
  | .none => p
  | .notNumeric =>
    p.complain v (subject ++ ": expected " ++ (if v.inShell then "" else "a ") ++ "numeric value")
  | .trailing =>
    let what := if v.inShell then "" else "value "
    p.complain v (subject ++ ": " ++ what ++ "not completely converted")
  | .outOfRange => p.complain v (subject ++ ": Numerical result out of range")

namespace Conversion

def hasFlag (c : Conversion) (flag : Char) : Bool := c.flags.contains flag

def pad (c : Conversion) (bytes : List UInt8) : List UInt8 :=
  let blanks := List.replicate (c.width - bytes.length) (32 : UInt8)
  if c.hasFlag '-' then bytes ++ blanks else blanks ++ bytes

def padNumber (c : Conversion) (sign : String) (digits : List Char) : List UInt8 :=
  let least := match c.precision with
    | some n => n
    | none => if c.hasFlag '0' && !c.hasFlag '-' then c.width - sign.length else 0
  let digits := if c.precision = some 0 && digits = ['0'] then [] else digits
  c.pad (Text.encode (sign ++ String.ofList (Text.padLeft least '0' digits)))

def signed (c : Conversion) (n : Int) : List UInt8 :=
  let sign :=
    if n < 0 then "-" else if c.hasFlag '+' then "+" else if c.hasFlag ' ' then " " else ""
  c.padNumber sign (Text.digitsOfNat n.natAbs)

/-- A negative number is the word of 64 bits that it wraps to. -/
def unsigned (c : Conversion) (base : Nat) (upper : Bool) (n : Int) : List UInt8 :=
  let value := (n % (UInt64.size : Int)).toNat
  let digits := Nat.toDigits base value
  let digits := if upper then digits.map Char.toUpper else digits
  let sign :=
    if !c.hasFlag '#' || value = 0 then ""
    else if base = 16 then (if upper then "0X" else "0x")
    else if base = 8 then "0"
    else ""
  c.padNumber sign digits

def print? (c : Conversion) (v : Voice) (letter : Char) (p : Printing) : Option Printing :=
  let cut (bytes : List UInt8) := (c.precision.map bytes.take).getD bytes
  let (arg, q) := p.take
  let number (render : Int → List UInt8) : Option Printing :=
    let (n, fault) := readNumeral arg
    some ((fault.tell v arg q).put (render n))
  match letter with
  | 's' =>
    if c.hasFlag '0' && !v.inShell then none else some (q.put (c.pad (cut (Text.encode arg))))
  | 'c' =>
    let bytes := if arg.isEmpty then [0] else (Text.encode arg).take 1
    some (q.put (c.pad bytes))
  | 'b' =>
    let (bytes, stops) := unescape v (arg.length + 1) arg.toList
    some { q.put (c.pad (cut bytes)) with stops }
  | 'd' | 'i' => number c.signed
  | 'u' => number (c.unsigned 10 false)
  | 'o' => number (c.unsigned 8 false)
  | 'x' => number (c.unsigned 16 false)
  | 'X' => number (c.unsigned 16 true)
  | _ => none

end Conversion

/-- Takes a number, or an argument for an asterisk. A negative width pads on the right. -/
def readWidth (cs : List Char) (p : Printing) : Option Int × List Char × Printing :=
  match cs with
  | '*' :: rest =>
    let (arg, p) := p.take
    (some (readNumeral arg).1, rest, p)
  | _ =>
    let digits := cs.takeWhile Text.isDigit
    ((Text.natOfDigits digits).map Int.ofNat, cs.drop digits.length, p)

def printConversion (v : Voice) (cs : List Char) (p : Printing) : Printing × List Char :=
  let flags := cs.takeWhile ['-', '+', ' ', '#', '0'].contains
  let (width, rest, p) := readWidth (cs.drop flags.length) p
  let (precision, rest, p) := match rest with
    | '.' :: rest =>
      let (n, rest, p) := readWidth rest p
      (some (n.getD 0).toNat, rest, p)
    | _ => (none, rest, p)
  let width := width.getD 0
  let c : Conversion :=
    { flags := if width < 0 then '-' :: flags else flags, width := width.natAbs, precision }
  let modifiers := if v.inShell then [] else rest.takeWhile ['l', 'h', 'j', 't', 'L', 'q'].contains
  let rest := rest.drop modifiers.length
  let spelled (tail : List Char) : String :=
    String.ofList ('%' :: cs.take (cs.length - rest.length) ++ tail)
  match rest with
  | [] =>
    (if v.inShell then p.fail v 2 "missing format character"
    else p.fail v 1 (spelled [] ++ ": invalid conversion specification"), [])
  | letter :: after =>
    match c.print? v letter p with
    | some p => (p, after)
    | none =>
      (if v.inShell then p.fail v 2 (spelled [letter] ++ ": invalid directive")
      else p.fail v 1 (spelled [letter] ++ ": invalid conversion specification"), after)

def printOnce (v : Voice) (fuel : Nat) (cs : List Char) (p : Printing) : Printing :=
  if p.stops then p
  else match fuel, cs with
    | 0, _ | _, [] => p
    | n + 1, '%' :: '%' :: rest => printOnce v n rest (p.put [37])
    | n + 1, '%' :: rest =>
      let (p, rest) := printConversion v rest p
      printOnce v n rest p
    | n + 1, '\\' :: 'c' :: rest =>
      if v.inShell then printOnce v n rest (p.put (Text.encode "\\c")) else { p with stops := true }
    | n + 1, '\\' :: '"' :: rest => printOnce v n rest (p.put [34])
    | n + 1, '\\' :: rest =>
      let (head, rest) := readEscape v false rest
      printOnce v n rest (p.put head)
    | n + 1, c :: rest => printOnce v n rest (p.put (Text.encode (String.ofList [c])))

/-- Prints a format as long as it uses arguments and some are left. -/
def printAll (v : Voice) (fuel : Nat) (format : List Char) (p : Printing) : Printing :=
  match fuel with
  | 0 => p
  | n + 1 =>
    let q := printOnce v (format.length + 1) format p
    if q.stops || q.args.isEmpty then q
    else if q.args.length = p.args.length then
      if v.inShell then q
      else
        let warning :=
          "warning: ignoring excess arguments, starting with " ++ inQuotes (q.args.headD "")
        { q with err := q.err ++ v.line warning }
    else printAll v n format q

def printf (v : Voice) (args : List String) : Outcome :=
  match if args.head? = some "--" then args.drop 1 else args with
  | [] =>
    if v.inShell then v.failure 2 "usage: printf format [arg ...]" else v.missingOperand
  | format :: args =>
    let p := printAll v (args.length + 1) format.toList { args }
    { out := p.out, err := Text.encode p.err, status := p.status }

end MeshTestbed.Host
