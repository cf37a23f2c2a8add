import MeshTestbed.Text.Number

/-!
Arithmetic of a shell: expressions over signed words of 64 bits and over variables, which may be
assigned. Arithmetic wraps; a numeral that is too large is the largest word.
-/

namespace MeshTestbed.Shell

inductive ArithToken where
  | number (n : Int64)
  | name (s : String)
  | sign (s : String)
deriving DecidableEq

inductive ArithExpr where
  | number (n : Int64)
  | value (name : String)
  | unary (sign : String) (e : ArithExpr)
  | binary (sign : String) (left right : ArithExpr)
  | conditional (condition yes no : ArithExpr)
  /-- With a sign the old value is an operand too. -/
  | assign (name : String) (sign : Option String) (e : ArithExpr)

inductive ArithError where
  | expectingPrimary
  | expectingEnd
  | expectingParenthesis
  | expectingColon
  | divisionByZero
  | illegalNumber (s : String)
deriving DecidableEq

namespace ArithToken

def signs : List String :=
  ["<<=", ">>=", "<<", ">>", "<=", ">=", "==", "!=", "&&", "||", "+=", "-=", "*=", "/=", "%=",
    "&=", "^=", "|=", "=", "+", "-", "*", "/", "%", "<", ">", "&", "|", "^", "~", "!", "(", ")",
    "?", ":"]

def clamp (n : Nat) : Int64 := Int64.ofNat (min n (UInt64.size / 2 - 1))

def numeral? (cs : List Char) : Option (Int64 × Nat) :=
  let inBase (start base : Nat) : Option (Int64 × Nat) :=
    let digits := (cs.drop start).takeWhile fun c => (Text.hexValue c).any fun d => d < base
    (Text.natOfBase base digits).map fun n => (clamp n, start + digits.length)
  match cs with
  | '0' :: 'x' :: _ | '0' :: 'X' :: _ => (inBase 2 16).or (some (0, 1))
  | '0' :: _ => inBase 0 8
  | _ => inBase 0 10

def ofText (fuel : Nat) (cs : List Char) : List ArithToken :=
  match fuel, cs with
  | 0, _ | _, [] => []
  | n + 1, c :: rest =>
    if c = ' ' ∨ c = '\t' ∨ c = '\n' then ofText n rest
    else match numeral? cs with
      | some (value, length) => .number value :: ofText n (cs.drop length)
      | none =>
        let name := cs.takeWhile fun c => c.isAlphanum || c = '_'
        if !name.isEmpty then .name (String.ofList name) :: ofText n (cs.drop name.length)
        else match signs.find? fun s => s.toList.isPrefixOf cs with
          | some s => .sign s :: ofText n (cs.drop s.length)
          | none => .sign (String.ofList [c]) :: ofText n rest

end ArithToken

namespace ArithExpr

def power? (sign : String) : Option Nat :=
  match sign with
  | "||" => some 1
  | "&&" => some 2
  | "|" => some 3
  | "^" => some 4
  | "&" => some 5
  | "==" | "!=" => some 6
  | "<" | "<=" | ">" | ">=" => some 7
  | "<<" | ">>" => some 8
  | "+" | "-" => some 9
  | "*" | "/" | "%" => some 10
  | _ => none

def assigning? (sign : String) : Option (Option String) :=
  match sign with
  | "=" => some none
  | "+=" => some (some "+")
  | "-=" => some (some "-")
  | "*=" => some (some "*")
  | "/=" => some (some "/")
  | "%=" => some (some "%")
  | "&=" => some (some "&")
  | "^=" => some (some "^")
  | "|=" => some (some "|")
  | "<<=" => some (some "<<")
  | ">>=" => some (some ">>")
  | _ => none

abbrev Rest := List ArithToken

mutual

def assignment (fuel : Nat) (ts : Rest) : Except ArithError (ArithExpr × Rest) :=
  match fuel with
  | 0 => .error .expectingPrimary
  | n + 1 =>
    match ts with
    | .name name :: .sign s :: rest =>
      match assigning? s with
      | some sign => do
        let (e, rest) ← assignment n rest
        return (.assign name sign e, rest)
      | none => choice n ts
    | _ => choice n ts

def choice (fuel : Nat) (ts : Rest) : Except ArithError (ArithExpr × Rest) :=
  match fuel with
  | 0 => .error .expectingPrimary
  | n + 1 => do
    let (condition, rest) ← operand n ts
    let (condition, rest) ← operators n 0 condition rest
    match rest with
    | .sign "?" :: rest =>
      let (yes, rest) ← assignment n rest
      match rest with
      | .sign ":" :: rest =>
        let (no, rest) ← choice n rest
        return (.conditional condition yes no, rest)
      | _ => throw .expectingColon
    | _ => return (condition, rest)

/-- Goes on after an operand with signs that bind tighter than `floor`. -/
def operators (fuel : Nat) (floor : Nat) (left : ArithExpr) (ts : Rest) :
    Except ArithError (ArithExpr × Rest) :=
  match fuel with
  | 0 => .error .expectingEnd
  | n + 1 =>
    match ts with
    | .sign s :: rest =>
      match power? s with
      | none => .ok (left, ts)
      | some power =>
        if power ≤ floor then .ok (left, ts)
        else do
          let (right, rest) ← operand n rest
          let (right, rest) ← operators n power right rest
          operators n floor (.binary s left right) rest
    | _ => .ok (left, ts)

def operand (fuel : Nat) (ts : Rest) : Except ArithError (ArithExpr × Rest) :=
  match fuel, ts with
  | _ + 1, .number n :: rest => .ok (.number n, rest)
  | _ + 1, .name name :: rest => .ok (.value name, rest)
  | n + 1, .sign "(" :: rest => do
    let (e, rest) ← assignment n rest
    match rest with
    | .sign ")" :: rest => return (e, rest)
    | _ => throw .expectingParenthesis
  | n + 1, .sign s :: rest =>
    if ["+", "-", "!", "~"].contains s then do
      let (e, rest) ← operand n rest
      return (.unary s e, rest)
    else .error .expectingPrimary
  | _, _ => .error .expectingPrimary

end

def ofText? (s : String) : Except ArithError ArithExpr := do
  let ts := ArithToken.ofText (s.length + 1) s.toList
  let (e, rest) ← assignment (8 * ts.length + 8) ts
  if rest.isEmpty then return e else throw .expectingEnd

def truth (b : Bool) : Int64 := if b then 1 else 0

def apply (sign : String) (a b : Int64) : Except ArithError Int64 :=
  match sign with
  | "|" => .ok (a ||| b)
  | "^" => .ok (a ^^^ b)
  | "&" => .ok (a &&& b)
  | "==" => .ok (truth (a == b))
  | "!=" => .ok (truth (a != b))
  | "<" => .ok (truth (a < b))
  | "<=" => .ok (truth (a ≤ b))
  | ">" => .ok (truth (a > b))
  | ">=" => .ok (truth (a ≥ b))
  | "<<" => .ok (a <<< b)
  | ">>" => .ok (a >>> b)
  | "+" => .ok (a + b)
  | "-" => .ok (a - b)
  | "*" => .ok (a * b)
  | "/" => if b = 0 then .error .divisionByZero else .ok (a / b)
  | _ => if b = 0 then .error .divisionByZero else .ok (a % b)

def numberOf (s : String) : Except ArithError Int64 :=
  let cs := s.toList.dropWhile (· = ' ')
  let (negative, digits) := match cs with
    | '-' :: rest => (true, rest)
    | '+' :: rest => (false, rest)
    | _ => (false, cs)
  if cs.isEmpty then .ok 0
  else match ArithToken.numeral? digits with
    | some (n, length) =>
      if length = digits.length then .ok (if negative then -n else n) else .error (.illegalNumber s)
    | none => .error (.illegalNumber s)

/-- Values of variables that were assigned, latest first, before those that `look` knows. -/
def eval (look : String → String) (set : List (String × Int64)) :
    ArithExpr → Except ArithError (Int64 × List (String × Int64))
  | number n => .ok (n, set)
  | value name =>
    match set.lookup name with
    | some n => .ok (n, set)
    | none => return (← numberOf (look name), set)
  | unary sign e => do
    let (n, set) ← e.eval look set
    return (match sign with
      | "-" => -n
      | "!" => truth (n == 0)
      | "~" => ~~~n
      | _ => n, set)
  | binary sign left right => do
    let (a, set) ← left.eval look set
    if sign = "||" ∧ a ≠ 0 then return (1, set)
    else if sign = "&&" ∧ a = 0 then return (0, set)
    else
      let (b, set) ← right.eval look set
      if sign = "||" ∨ sign = "&&" then return (truth (b != 0), set)
      else return (← apply sign a b, set)
  | conditional condition yes no => do
    let (c, set) ← condition.eval look set
    if c ≠ 0 then yes.eval look set else no.eval look set
  | assign name sign e => do
    let (n, set) ← e.eval look set
    let n ← match sign with
      | none => pure n
      | some s =>
        let old ← match set.lookup name with
          | some old => pure old
          | none => numberOf (look name)
        apply s old n
    return (n, (name, n) :: set)

end ArithExpr

def ArithError.message (expression : String) : ArithError → String
  | expectingPrimary => "arithmetic expression: expecting primary: \"" ++ expression ++ "\""
  | expectingEnd => "arithmetic expression: expecting EOF: \"" ++ expression ++ "\""
  | expectingParenthesis => "arithmetic expression: expecting ')': \"" ++ expression ++ "\""
  | expectingColon => "arithmetic expression: expecting ':': \"" ++ expression ++ "\""
  | divisionByZero => "arithmetic expression: division by zero: \"" ++ expression ++ "\""
  | illegalNumber s => "Illegal number: " ++ s

end MeshTestbed.Shell
