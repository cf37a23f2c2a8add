import MeshTestbed.Text.Blank
import MeshTestbed.Text.Lines

/-!
File paths as text. Joining is textual: nothing is normalised, and an absolute path replaces what
it is joined to.
-/

namespace MeshTestbed.Path

def isAbsolute (p : String) : Bool := p.toList.head? == some '/'

/-- An empty base adds nothing, and a base that ends in a slash gets no second one. -/
def join (base p : String) : String :=
  if isAbsolute p || base.isEmpty then p
  else if base.toList.getLast? = some '/' then base ++ p
  else base ++ "/" ++ p

def names (p : String) : List String :=
  (Text.splitWhere (· = '/') p.toList).map String.ofList

def dropIdle (parts : List String) : List String :=
  (parts.reverse.dropWhile fun name => name = "" || name = ".").reverse

def start (p : String) : String :=
  if isAbsolute p then "/" else if p = "." || (names p).head? = some "." then "." else ""

/-- The directory that a path's last name stands in; empty where nothing but a name is left. -/
def parent (p : String) : String :=
  let first := start p
  match dropIdle (names (String.ofList (p.toList.drop first.length))) with
  | [] => ""
  | body => first ++ Text.joinWith "/" (dropIdle body.dropLast)

def resolve (base p : String) : String := if isAbsolute p then p else join base p

end MeshTestbed.Path
