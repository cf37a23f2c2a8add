import MeshTestbed.Text.Blank
import MeshTestbed.Text.Lines
import MeshTestbed.Text.Number

namespace MeshTestbed

structure Pod where
  name : String
  ready : UInt32
  total : UInt32
  status : String
deriving DecidableEq

namespace Pod

def isReady (p : Pod) : Bool := p.status == "Running" && 0 < p.total && p.ready == p.total

def hasCompleted (p : Pod) : Bool := ["Completed", "Succeeded"].contains p.status

def isStarting (p : Pod) : Bool :=
  ["Pending", "ContainerCreating", "PodInitializing"].contains p.status ||
    "Init:".toList.isPrefixOf p.status.toList

def render (p : Pod) : String :=
  p.name ++ " " ++ Text.ofNat p.ready.toNat ++ "/" ++ Text.ofNat p.total.toNat ++ " " ++ p.status

def count? (digits : List Char) : Option UInt32 :=
  (Text.natBelow UInt32.size digits).map UInt32.ofNat

def counts? (column : List Char) : Option (UInt32 × UInt32) := do
  let ready ← count? (column.takeWhile (· ≠ '/'))
  let .cons '/' total := column.dropWhile (· ≠ '/') | none
  return (ready, ← count? total)

/-- The first three columns of a row; the header and malformed rows are no pods. -/
def ofLine? (line : List Char) : Option Pod :=
  match Text.words line with
  | name :: ready :: status :: _ =>
    if name = "NAME".toList then none
    else (counts? ready).map fun counts =>
      ⟨String.ofList name, counts.1, counts.2, String.ofList status⟩
  | _ => none

end Pod

abbrev Pods := List Pod

namespace Pods

def ofTable (raw : String) : Pods := (Text.lines raw.toList).filterMap Pod.ofLine?

/-- No pod is still being scheduled or created; an empty listing is quiet. -/
def areQuiet (pods : Pods) : Bool := !pods.any Pod.isStarting

def areSettled (pods : Pods) : Bool := !pods.isEmpty && pods.areQuiet

/-- There is a pod, and each has completed or runs with all containers ready, as many as
expected. -/
def isReady (pods : Pods) (expected : Option UInt32) : Bool :=
  !pods.isEmpty && pods.all fun p =>
    p.hasCompleted || (p.isReady && expected.all fun n => p.total == n)

def unready (pods : Pods) : Pods := pods.filter fun p => !p.isReady && !p.hasCompleted

def unreadyLines (pods : Pods) : List String := pods.unready.map Pod.render

end Pods

end MeshTestbed
