/-!
Patterns of a shell: an asterisk stands for any text, a question mark for any character,
and brackets for one of several. Quoted characters stand for themselves.
-/

namespace MeshTestbed.Shell

abbrev Glyph := Char × Bool

inductive PatternItem where
  | one (c : Char)
  | anyOne
  | anyText
  | oneOf (negated : Bool) (ranges : List (Char × Char))

def rangesOf : List Char → List (Char × Char)
  | a :: '-' :: b :: rest => (a, b) :: rangesOf rest
  | a :: rest => (a, a) :: rangesOf rest
  | [] => []

/-- What stands between an opening bracket and the next closing one that is not the first. -/
def bracketed (cs : List Glyph) : Option (List Char × List Glyph) :=
  let isEnd (g : Glyph) : Bool := g == (']', false)
  let (first, rest) := (cs.take 1, cs.drop 1)
  let inner := rest.takeWhile (!isEnd ·)
  if inner.length < rest.length ∧ !first.isEmpty then
    some ((first ++ inner).map (·.1), rest.drop (inner.length + 1))
  else none

def patternOf (fuel : Nat) (glyphs : List Glyph) : List PatternItem :=
  match fuel, glyphs with
  | 0, _ | _, [] => []
  | n + 1, ('*', false) :: rest => .anyText :: patternOf n rest
  | n + 1, ('?', false) :: rest => .anyOne :: patternOf n rest
  | n + 1, ('[', false) :: rest =>
    let (negated, inner) := match rest with
      | ('!', false) :: inner => (true, inner)
      | inner => (false, inner)
    match bracketed inner with
    | some (cs, rest) => .oneOf negated (rangesOf cs) :: patternOf n rest
    | none => .one '[' :: patternOf n rest
  | n + 1, (c, _) :: rest => .one c :: patternOf n rest

def PatternItem.accepts (p : PatternItem) (c : Char) : Bool :=
  match p with
  | one d => c == d
  | anyOne | anyText => true
  | oneOf negated ranges => (ranges.any fun r => r.1 ≤ c && c ≤ r.2) != negated

def covers : List PatternItem → List Char → Bool
  | [], cs => cs.isEmpty
  | .anyText :: ps, [] => covers ps []
  | .anyText :: ps, c :: cs => covers ps (c :: cs) || covers (.anyText :: ps) cs
  | _ :: _, [] => false
  | p :: ps, c :: cs => p.accepts c && covers ps cs

/-- A text without what the pattern covers of its start or its end, the longest such part or the
shortest. -/
def trimmedBy (atStart longest : Bool) (pattern : List PatternItem) (cs : List Char) : List Char :=
  let counts := List.range (cs.length + 1)
  let counts := if longest then counts.reverse else counts
  if atStart then
    match counts.find? fun n => covers pattern (cs.take n) with
    | some n => cs.drop n
    | none => cs
  else
    match counts.find? fun n => covers pattern (cs.drop (cs.length - n)) with
    | some n => cs.take (cs.length - n)
    | none => cs

end MeshTestbed.Shell
