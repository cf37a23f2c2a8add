namespace MeshTestbed.Yaml

inductive Style where
  | plain
  | quoted
  | literal
  | folded
deriving DecidableEq

structure Scalar where
  text : String
  style : Style := .plain
  tag : Option (List UInt8) := none
deriving DecidableEq

inductive Node where
  | scalar (s : Scalar)
  | items (nodes : List Node)
  | entries (pairs : List (Node × Node))
  /-- Stands for the node of that number. -/
  | reference (number : Nat)

/-- A document's root and the nodes that references mean, the latest one first where several have a
number. -/
structure Document where
  root : Node
  anchored : List (Nat × Node) := []

namespace Document

def follow (d : Document) : Node → Option Node
  | .reference number => (d.anchored.find? fun a => a.1 = number).map (·.2)
  | node => some node

end Document

end MeshTestbed.Yaml
