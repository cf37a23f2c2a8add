namespace MeshTestbed.Text

/-- Whether `pat` occurs in the text; the empty pattern occurs everywhere. -/
def occurs (pat : List Char) : List Char → Bool
  | [] => pat.isEmpty
  | c :: cs => pat.isPrefixOf (c :: cs) || occurs pat cs

def splitFirst (pat : List Char) : List Char → Option (List Char × List Char)
  | [] => if pat.isEmpty then some ([], []) else none
  | c :: cs =>
    if pat.isPrefixOf (c :: cs) then some ([], (c :: cs).drop pat.length)
    else (splitFirst pat cs).map fun parts => (c :: parts.1, parts.2)

/-- What follows the last `sep`, if there is one. -/
def afterLast (sep : Char) : List Char → Option (List Char)
  | [] => none
  | c :: cs => (afterLast sep cs).or (if c = sep then some cs else none)

def replaceChar (c : Char) (s : List Char) (cs : List Char) : List Char :=
  cs.flatMap fun d => if d = c then s else [d]

def contains (s pat : String) : Bool := occurs pat.toList s.toList

def containsAny (s : String) (pats : List String) : Bool := pats.any (contains s)

end MeshTestbed.Text
