import MeshTestbed.Text.Lines
import MeshTestbed.Text.Number
import MeshTestbed.Text.Utf8

namespace MeshTestbed.Host

structure Outcome where
  out : List UInt8 := []
  err : List UInt8 := []
  status : Nat := 0
deriving DecidableEq

/-- How a program speaks: what its messages start with, and whether it is a part of the shell. -/
structure Voice where
  lead : String
  inShell : Bool := false

namespace Outcome

def ofText (s : String) : Outcome := { out := Text.encode s }

def failure (status : Nat) (message : String) : Outcome := { err := Text.encode message, status }

end Outcome

namespace Voice

def ofProgram (name : String) : Voice := { lead := name ++ ": " }

def line (v : Voice) (message : String) : String := v.lead ++ message ++ "\n"

def failure (v : Voice) (status : Nat) (message : String) : Outcome :=
  .failure status (v.line message)

def misuse (v : Voice) (status : Nat) (message : String) : Outcome :=
  let name := String.ofList (v.lead.toList.takeWhile (· ≠ ':'))
  .failure status (v.line message ++ "Try '" ++ name ++ " --help' for more information.\n")

def missingOperand (v : Voice) : Outcome := v.misuse 1 "missing operand"

end Voice

def inQuotes (s : String) : String := "'" ++ s ++ "'"

def isOctal (c : Char) : Bool := '0' ≤ c && c ≤ '7'

def readOctal (cs : List Char) : UInt8 × List Char :=
  let digits := (cs.take 3).takeWhile isOctal
  (UInt8.ofNat ((Text.natOfBase 8 digits).getD 0), cs.drop digits.length)

def readHex? (cs : List Char) : Option (UInt8 × List Char) :=
  let digits := (cs.take 2).takeWhile fun c => (Text.hexValue c).isSome
  (Text.natOfBase 16 digits).map fun n => (UInt8.ofNat n, cs.drop digits.length)

def controlEscape? : Char → Option UInt8
  | 'a' => some 7
  | 'b' => some 8
  | 't' => some 9
  | 'n' => some 10
  | 'v' => some 11
  | 'f' => some 12
  | 'r' => some 13
  | 'e' => some 27
  | '\\' => some 92
  | _ => none

/-- What a backslash and what follows it stand for, and the rest. With `zeroed` a zero may come
before the three digits of an octal number. The shell knows no hexadecimal escapes. -/
def readEscape (v : Voice) (zeroed : Bool) (cs : List Char) : List UInt8 × List Char :=
  let one (p : UInt8 × List Char) : List UInt8 × List Char := ([p.1], p.2)
  match cs with
  | [] => ([92], [])
  | c :: rest =>
    if zeroed && c = '0' then one (readOctal rest)
    else if isOctal c then one (readOctal cs)
    else match controlEscape? c, if c = 'x' && !v.inShell then readHex? rest else none with
      | some b, _ => ([b], rest)
      | none, some p => one p
      | none, none => (Text.encode (String.ofList ['\\', c]), rest)

/-- Text with its escapes replaced. An escaped `c` ends all output, which the flag tells. -/
def unescape (v : Voice) (fuel : Nat) (cs : List Char) : List UInt8 × Bool :=
  match fuel, cs with
  | 0, _ | _, [] => ([], false)
  | _ + 1, '\\' :: 'c' :: _ => ([], true)
  | n + 1, '\\' :: rest =>
    let (head, rest) := readEscape v true rest
    let (bytes, stops) := unescape v n rest
    (head ++ bytes, stops)
  | n + 1, c :: rest =>
    let (bytes, stops) := unescape v n rest
    (Text.encode (String.ofList [c]) ++ bytes, stops)

def isEchoOption (s : String) : Bool :=
  match s.toList with
  | '-' :: letters => !letters.isEmpty && letters.all ['n', 'e', 'E'].contains
  | _ => false

/-- Prints the arguments with blanks between them and a line's end. Escapes count after `-e`, and
always in the shell, whose only option is a leading `-n`. -/
def echo (v : Voice) (args : List String) : Outcome :=
  let count :=
    if v.inShell then ((args.take 1).takeWhile (· = "-n")).length
    else (args.takeWhile isEchoOption).length
  let (given, args) := args.splitAt count
  let options := given.flatMap String.toList
  let text := Text.joinWith " " args
  let escapes := v.inShell || (options.reverse.find? fun c => c = 'e' ∨ c = 'E') = some 'e'
  let (bytes, stops) :=
    if escapes then unescape v (text.length + 1) text.toList else (Text.encode text, false)
  { out := if stops || options.contains 'n' then bytes else bytes ++ [10] }

end MeshTestbed.Host
