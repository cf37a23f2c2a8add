import MeshTestbed.Host.Files
import MeshTestbed.Host.Outcome

namespace MeshTestbed.Host

structure Arguments where
  options : List (Char × String) := []
  operands : List String := []

namespace Arguments

def has (a : Arguments) (letter : Char) : Bool := a.options.any (·.1 = letter)

def value? (a : Arguments) (letter : Char) : Option String :=
  (a.options.reverse.find? (·.1 = letter)).map (·.2)

/-- Reads a cluster of letters; the flag tells that the next argument is the last one's value. -/
def cluster (plain valued : List Char) : List Char → Except String (List (Char × String) × Bool)
  | [] => .ok ([], false)
  | c :: rest =>
    if valued.contains c then .ok ([(c, String.ofList rest)], rest.isEmpty)
    else if plain.contains c then do
      let (more, waits) ← cluster plain valued rest
      return ((c, "") :: more, waits)
    else .error ("invalid option -- " ++ inQuotes (String.ofList [c]))

/-- Reads arguments; options may stand anywhere before a double dash. `waiting` are the letters of a
cluster whose value comes next. -/
def readFrom (plain valued : List Char) (waiting : List (Char × String)) :
    List String → Except String Arguments
  | [] =>
    match waiting.getLast? with
    | none => .ok {}
    | some (c, _) =>
      .error ("option requires an argument -- " ++ inQuotes (String.ofList [c]))
  | arg :: rest =>
    if !waiting.isEmpty then do
      let a ← readFrom plain valued [] rest
      let last := waiting.getLast?.toList.map fun o => (o.1, arg)
      return { a with options := waiting.dropLast ++ last ++ a.options }
    else match arg.toList with
      | ['-', '-'] => .ok { operands := rest }
      | '-' :: '-' :: _ => .error ("unrecognized option " ++ inQuotes arg)
      | '-' :: c :: letters => do
        let (options, waits) ← cluster plain valued (c :: letters)
        if waits then readFrom plain valued options rest
        else
          let a ← readFrom plain valued [] rest
          return { a with options := options ++ a.options }
      | _ => do
        let a ← readFrom plain valued [] rest
        return { a with operands := arg :: a.operands }

def read (plain valued : List Char) (args : List String) : Except String Arguments :=
  readFrom plain valued [] args

end Arguments

structure Source where
  name : String
  bytes : Except FileError (List UInt8)

def sourcesOf (files : Files) (input : List UInt8) (operands : List String) : List Source :=
  (if operands.isEmpty then ["-"] else operands).map fun name =>
    { name, bytes := if name = "-" then .ok input else files.readBytes name }

def shownName (name : String) : String := if name.isEmpty then "''" else name

def forEach (v : Voice) (blame : String → String) (sources : List Source)
    (f : List UInt8 → List UInt8) : Outcome :=
  sources.foldl
    (fun o s =>
      match s.bytes with
      | .ok bytes => { o with out := o.out ++ f bytes }
      | .error e =>
        { o with
          err := o.err ++ Text.encode (v.line (blame s.name ++ ": " ++ e.words)), status := 1 })
    {}

def linesOf (bytes : List UInt8) : List (List UInt8) :=
  let (lines, last) := bytes.foldr
    (fun b (lines, current) =>
      if b = 10 then (current :: lines, [b]) else (lines, b :: current))
    (([] : List (List UInt8)), ([] : List UInt8))
  (last :: lines).filter fun l => !l.isEmpty

def cat (v : Voice) (files : Files) (input : List UInt8) (args : List String) : Outcome :=
  match Arguments.read ['u', 'n'] [] args with
  | .error e => v.misuse 1 e
  | .ok a =>
    let o := forEach v shownName (sourcesOf files input a.operands) id
    if !a.has 'n' then o
    else
      let numbered (line : List UInt8) (i : Nat) : List UInt8 :=
        Text.encode (String.ofList (Text.padLeft 6 ' ' (Text.digitsOfNat (i + 1))) ++ "\t") ++ line
      { o with out := (linesOf o.out).zipIdx.flatMap fun (line, i) => numbered line i }

def readCount (s : String) : Option (Char × Nat) :=
  match s.toList with
  | '-' :: digits => (Text.natOfDigits digits).map fun n => ('-', n)
  | '+' :: digits => (Text.natOfDigits digits).map fun n => ('+', n)
  | digits => (Text.natOfDigits digits).map fun n => (' ', n)

/-- An argument such as `-5` is a count of lines. -/
def spellOut (args : List String) : List String :=
  match args with
  | first :: rest =>
    match first.toList with
    | '-' :: digits =>
      if (Text.natOfDigits digits).isSome then "-n" :: String.ofList digits :: rest else args
    | _ => args
  | [] => []

def cut (v : Voice) (ofStart : Bool) (files : Files) (input : List UInt8) (args : List String) :
    Outcome :=
  let keep {α : Type} (sign : Char) (n : Nat) (xs : List α) : List α :=
    match ofStart, sign with
    | true, '-' => xs.take (xs.length - n)
    | true, _ => xs.take n
    | false, '+' => xs.drop (n - 1)
    | false, _ => xs.drop (xs.length - n)
  match Arguments.read ['q'] ['n', 'c'] (spellOut args) with
  | .error e => v.misuse 1 e
  | .ok a =>
    let inBytes := a.has 'c'
    let given := (a.value? (if inBytes then 'c' else 'n')).getD "10"
    match readCount given with
    | none =>
      v.failure 1 <|
        "invalid number of " ++ (if inBytes then "bytes" else "lines") ++ ": " ++ inQuotes given
    | some (sign, n) =>
      forEach v (fun name => "cannot open " ++ inQuotes name ++ " for reading")
        (sourcesOf files input a.operands) fun bytes =>
          if inBytes then keep sign n bytes else (keep sign n (linesOf bytes)).flatten

def count (v : Voice) (files : Files) (input : List UInt8) (args : List String) : Outcome :=
  match Arguments.read ['l', 'w', 'c', 'm'] [] args with
  | .error e => v.misuse 1 e
  | .ok a =>
    let kinds := if a.options.isEmpty then ['l', 'w', 'c'] else ['l', 'w', 'm', 'c'].filter a.has
    let counts (bytes : List UInt8) : List Nat := kinds.map fun kind =>
      match kind with
      | 'l' => (bytes.filter (· = 10)).length
      | 'w' => (Text.words (Text.decode bytes).toList).length
      | _ => bytes.length
    let width := if kinds.length = 1 then 0 else 7
    let line (numbers : List Nat) (name : String) : List UInt8 :=
      let fields := numbers.map fun n => String.ofList (Text.padLeft width ' ' (Text.digitsOfNat n))
      let name := if a.operands.isEmpty then "" else " " ++ name
      Text.encode (Text.joinWith " " fields ++ name ++ "\n")
    (sourcesOf files input a.operands).foldl
      (fun o s =>
        let one := forEach v id [s] fun bytes => line (counts bytes) s.name
        { out := o.out ++ one.out, err := o.err ++ one.err, status := max o.status one.status })
      {}

def byteRange (first last : UInt8) : List UInt8 :=
  (List.range (last.toNat + 1 - first.toNat)).map fun i => UInt8.ofNat (first.toNat + i)

def byteClass? (name : String) : Option (List UInt8) :=
  let lower := byteRange 97 122
  let upper := byteRange 65 90
  let digit := byteRange 48 57
  match name with
  | "lower" => some lower
  | "upper" => some upper
  | "digit" => some digit
  | "alpha" => some (upper ++ lower)
  | "alnum" => some (digit ++ upper ++ lower)
  | "space" => some (byteRange 9 13 ++ [32])
  | "blank" => some [9, 32]
  | "punct" => some (byteRange 33 47 ++ byteRange 58 64 ++ byteRange 91 96 ++ byteRange 123 126)
  | "cntrl" => some (byteRange 0 31 ++ [127])
  | _ => none

def bytesOfSet (v : Voice) (fuel : Nat) (cs : List Char) : List UInt8 :=
  match fuel, cs with
  | 0, _ | _, [] => []
  | n + 1, '[' :: ':' :: rest =>
    let name := rest.takeWhile (· ≠ ':')
    match byteClass? (String.ofList name), rest.drop name.length with
    | some bytes, ':' :: ']' :: rest => bytes ++ bytesOfSet v n rest
    | _, _ => 91 :: bytesOfSet v n (':' :: rest)
  | n + 1, c :: rest =>
    let (first, rest) := if c = '\\' then readEscape v false rest
      else (Text.encode (String.ofList [c]), rest)
    match first, rest with
    | [low], '-' :: d :: rest =>
      let (last, rest) := if d = '\\' then readEscape v false rest
        else (Text.encode (String.ofList [d]), rest)
      match last with
      | [high] => byteRange low high ++ bytesOfSet v n rest
      | _ => [low, 45] ++ last ++ bytesOfSet v n rest
    | _, _ => first ++ bytesOfSet v n rest

/-- One of equal bytes in a row is kept, if they are in the set. -/
def squeeze (set : List UInt8) : List UInt8 → List UInt8
  | a :: b :: rest =>
    if a = b && set.contains a then squeeze set (b :: rest) else a :: squeeze set (b :: rest)
  | bytes => bytes

def transliterate (v : Voice) (input : List UInt8) (args : List String) : Outcome :=
  match Arguments.read ['d', 's', 'c', 'C'] [] args with
  | .error e => v.misuse 1 e
  | .ok a =>
    let sets := a.operands.map fun s => bytesOfSet v (s.length + 1) s.toList
    let complement (set : List UInt8) : List UInt8 :=
      if a.has 'c' || a.has 'C' then (byteRange 0 255).filter (!set.contains ·) else set
    match sets with
    | [] => v.missingOperand
    | set :: others =>
      let set := complement set
      let kept := if a.has 'd' then input.filter (!set.contains ·) else input
      match others with
      | [] =>
        if a.has 'd' then { out := kept }
        else if a.has 's' then { out := squeeze set kept }
        else
          v.misuse 1 <| "missing operand after " ++ inQuotes (a.operands.headD "") ++
            "\nTwo strings must be given when translating."
      | target :: _ =>
        let image (b : UInt8) : UInt8 :=
          match set.findIdx? (· = b) with
          | none => b
          | some i => (target[i]?).getD (target.getLast?.getD b)
        let out := if a.has 'd' then kept else kept.map image
        { out := if a.has 's' then squeeze target out else out }

def bytesLe : List UInt8 → List UInt8 → Bool
  | [], _ => true
  | _ :: _, [] => false
  | a :: as, b :: bs => a < b || (a = b && bytesLe as bs)

def leadingNumber (line : List UInt8) : Int :=
  let cs := (Text.decode line).toList.dropWhile (· = ' ')
  let (negative, cs) := match cs with
    | '-' :: rest => (true, rest)
    | _ => (false, cs)
  let n := (Text.natOfDigits (cs.takeWhile Text.isDigit)).getD 0
  if negative then -(n : Int) else n

def sortLines (v : Voice) (files : Files) (input : List UInt8) (args : List String) : Outcome :=
  match Arguments.read ['r', 'n', 'u'] [] args with
  | .error e => v.misuse 2 e
  | .ok a =>
    let byNumber (x y : List UInt8) : Bool :=
      let (m, n) := (leadingNumber x, leadingNumber y)
      m < n || (m = n && bytesLe x y)
    let le := if a.has 'n' then byNumber else bytesLe
    let o := forEach v (fun name => "cannot read: " ++ name) (sourcesOf files input a.operands) id
    let lines := (linesOf o.out).map fun l => if l.getLast? = some 10 then l.dropLast else l
    let sorted := lines.mergeSort le
    let sorted := if a.has 'u' then sorted.eraseReps else sorted
    let sorted := if a.has 'r' then sorted.reverse else sorted
    if o.status ≠ 0 then { err := o.err, status := 2 }
    else { out := sorted.flatMap fun l => l ++ [10] }

def sequence (v : Voice) (args : List String) : Outcome :=
  let bad (s : String) : Outcome := v.misuse 1 ("invalid floating point argument: " ++ inQuotes s)
  let run (first step last : Int) : Outcome :=
    let count := if step = 0 then 0 else ((last - first) / step + 1).toNat
    .ofText <| String.join <|
      (List.range count).map fun (i : Nat) => Text.ofInt (first + step * i) ++ "\n"
  let numbers := args.map String.toInt?
  match args.zip numbers |>.find? (·.2.isNone), numbers with
  | some (s, _), _ => bad s
  | none, [some last] => run 1 1 last
  | none, [some first, some last] => run first 1 last
  | none, [some first, some step, some last] => run first step last
  | none, [] => v.missingOperand
  | none, _ => v.misuse 1 ("extra operand " ++ inQuotes ((args[3]?).getD ""))

end MeshTestbed.Host
