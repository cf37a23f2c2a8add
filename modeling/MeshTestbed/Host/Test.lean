import MeshTestbed.Host.Files
import MeshTestbed.Host.Outcome

namespace MeshTestbed.Host

inductive TestFault where
  | unexpectedOperator (s : String)
  | argumentExpected (operator : String)
  | closingExpected
  | illegalNumber (s : String)
  | missingBracket
deriving DecidableEq

namespace TestFault

def message : TestFault → String
  | unexpectedOperator s => s ++ ": unexpected operator"
  | argumentExpected operator => operator ++ ": argument expected"
  | closingExpected => "closing paren expected"
  | illegalNumber s => "Illegal number: " ++ s
  | missingBracket => "missing ]"

def programMessage (args : List String) : TestFault → String
  | illegalNumber s => "invalid integer " ++ inQuotes s
  | missingBracket => "missing ']'"
  | argumentExpected operator => "missing argument after " ++ inQuotes operator
  | closingExpected => "missing argument after " ++ inQuotes (args.getLast?.getD "")
  | unexpectedOperator _ =>
    match args with
    | [first, last] =>
      if "-".isPrefixOf first then inQuotes first ++ ": unary operator expected"
      else "missing argument after " ++ inQuotes last
    | [_, operator, _] => inQuotes operator ++ ": binary operator expected"
    | _ => "extra argument " ++ inQuotes ((args[1]?).getD "")

end TestFault

namespace Test

def unaryOperators : List String :=
  ["-n", "-z", "-r", "-w", "-x", "-d", "-e", "-f", "-s", "-b", "-c", "-p", "-u", "-g", "-k", "-L",
    "-h", "-O", "-G", "-S", "-t"]

def binaryOperators : List String :=
  ["=", "!=", "<", ">", "-eq", "-ne", "-gt", "-ge", "-lt", "-le", "-nt", "-ot", "-ef"]

def isUnary (s : String) : Bool := unaryOperators.contains s

def isBinary (s : String) : Bool := binaryOperators.contains s

def number (s : String) : Except TestFault Int :=
  let cs := Text.trim s.toList
  let (negative, digits) := match cs with
    | '-' :: rest => (true, rest)
    | '+' :: rest => (false, rest)
    | _ => (false, cs)
  match Text.natBelow (UInt64.size / 2) digits with
  | some n => .ok (if negative then -(n : Int) else n)
  | none => .error (.illegalNumber s)

def unary (files : Files) (operator operand : String) : Except TestFault Bool :=
  let isThere := (files.find operand).toOption.isSome
  match operator with
  | "-n" => .ok !operand.isEmpty
  | "-z" => .ok operand.isEmpty
  | "-t" => return (← number operand) < 0
  | "-e" | "-r" | "-w" | "-O" | "-G" => .ok isThere
  | "-f" => .ok (files.isFile operand)
  | "-d" => .ok (files.isDirectory operand)
  | "-x" => .ok (files.isDirectory operand || files.isProgram operand)
  | "-s" => .ok (((files.readBytes operand).toOption.map fun b => !b.isEmpty).getD isThere)
  | "-c" => .ok ((files.find operand).toOption = some .null)
  | _ => .ok false

def binary (first operator second : String) : Except TestFault Bool :=
  let numbers (compare : Int → Int → Bool) : Except TestFault Bool := do
    return compare (← number first) (← number second)
  match operator with
  | "=" => .ok (first = second)
  | "!=" => .ok (first ≠ second)
  | "<" => .ok (first < second)
  | ">" => .ok (second < first)
  | "-eq" => numbers (· == ·)
  | "-ne" => numbers (· != ·)
  | "-lt" => numbers (· < ·)
  | "-le" => numbers (· ≤ ·)
  | "-gt" => numbers (· > ·)
  | "-ge" => numbers (· ≥ ·)
  | _ => .ok false

/-- A condition's value, its last argument, and the arguments after it. -/
abbrev Reading := Bool × String × List String

/-- Whether the first argument is taken as an operand, though it may spell an operator. -/
def isOperand : List String → Bool
  | [] => false
  | "(" :: rest => rest.isEmpty
  | s :: rest =>
    if isUnary s then
      match rest with
      | [] => true
      | [_] => false
      | next :: _ => isBinary next
    else !isBinary s && s ≠ "!" && s ≠ ")" && s ≠ "-a" && s ≠ "-o"

mutual

def disjunction (files : Files) (fuel : Nat) (args : List String) : Except TestFault Reading :=
  match fuel with
  | 0 => .ok (false, "", args)
  | n + 1 => do
    let (a, last, rest) ← conjunction files n args
    match rest with
    | "-o" :: more =>
      let (b, last, rest) ← disjunction files n more
      return (a || b, last, rest)
    | _ => return (a, last, rest)

def conjunction (files : Files) (fuel : Nat) (args : List String) : Except TestFault Reading :=
  match fuel with
  | 0 => .ok (false, "", args)
  | n + 1 => do
    let (a, last, rest) ← negation files n args
    match rest with
    | "-a" :: more =>
      let (b, last, rest) ← conjunction files n more
      return (a && b, last, rest)
    | _ => return (a, last, rest)

def negation (files : Files) (fuel : Nat) (args : List String) : Except TestFault Reading :=
  match fuel, args with
  | n + 1, "!" :: rest => do
    let (a, last, rest) ← negation files n rest
    return (!a, last, rest)
  | n + 1, _ => primary files n args
  | 0, _ => .ok (false, "", args)

def primary (files : Files) (fuel : Nat) (args : List String) : Except TestFault Reading :=
  match fuel, args with
  | 0, _ | _, [] => .ok (false, "", [])
  | n + 1, s :: rest =>
    if s = "(" ∧ !isOperand args then do
      match rest with
      | ")" :: rest => return (false, ")", rest)
      | _ =>
        let (a, _, rest) ← disjunction files n rest
        match rest with
        | ")" :: rest => return (a, ")", rest)
        | _ => throw .closingExpected
    else if isUnary s ∧ !isOperand args then
      match rest with
      | [] => throw (.argumentExpected s)
      | operand :: rest => return (← unary files s operand, operand, rest)
    else match rest with
      | operator :: more =>
        if isBinary operator then
          match more with
          | [] => throw (.argumentExpected operator)
          | second :: rest => return (← binary s operator second, second, rest)
        else return (!s.isEmpty, s, rest)
      | [] => return (!s.isEmpty, s, [])

end

/-- A condition by its arguments. Four at most have a meaning of their own. -/
def value (files : Files) (fuel : Nat) (args : List String) : Except TestFault Bool :=
  let whole (args : List String) : Except TestFault Bool := do
    let (a, last, rest) ← disjunction files (4 * args.length + 4) args
    if rest.isEmpty then return a else throw (.unexpectedOperator last)
  let inside (args : List String) : List String := (args.drop 1).dropLast
  match fuel, args with
  | _, [] => .ok false
  | 0, _ => whole args
  | n + 1, [first, operator, second] =>
    if isBinary operator then binary first operator second
    else if first = "(" ∧ second = ")" then whole (inside args)
    else if first = "!" then return !(← value files n [operator, second])
    else whole args
  | n + 1, [first, second, third, last] =>
    if first = "(" ∧ last = ")" then whole (inside args)
    else if first = "!" then return !(← value files n [second, third, last])
    else whole args
  | _, args => whole args

end Test

def test (v : Voice) (files : Files) (bracketed : Bool) (args : List String) : Outcome :=
  let read :=
    if bracketed && args.getLast? != some "]" then .error .missingBracket
    else Test.value files 4 (if bracketed then args.dropLast else args)
  match read with
  | .ok a => { status := if a then 0 else 1 }
  | .error fault => v.failure 2 (if v.inShell then fault.message else fault.programMessage args)

end MeshTestbed.Host
