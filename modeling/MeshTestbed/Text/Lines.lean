import MeshTestbed.Text.Blank

/-!
Lines of a text. A line ends at a line feed; one carriage return directly before that line feed is
part of the line's end. What follows the last line feed is a line unless it is empty.
-/

namespace MeshTestbed.Text

def lines : List Char → List (List Char)
  | [] => []
  | '\n' :: cs => [] :: lines cs
  | '\r' :: '\n' :: cs => [] :: lines cs
  | c :: cs => consHead c (lines cs)

def unlines (lines : List String) : String := lines.foldr (fun l rest => l ++ "\n" ++ rest) ""

def joinWith (sep : String) : List String → String
  | [] => ""
  | [s] => s
  | s :: t :: rest => s ++ sep ++ joinWith sep (t :: rest)

end MeshTestbed.Text
