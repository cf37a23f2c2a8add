import MeshTestbed.Condition.Basic

/-!
Conditions read from templated query output, one line for each:
`Installed=True, reason=InstallSuccessful, message=All components installed`.
-/

namespace MeshTestbed

namespace Condition

def missingField : List Char := "<no value>".toList

def reasonMark : List Char := ", reason=".toList

def messageMark : List Char := ", message=".toList

/-- Blanks, and quotes left over from a quoted template, are no part of the line. -/
def unquote (line : List Char) : List Char :=
  Text.trim (Text.stripEnds (fun c => c = '\'' || c = '"') (Text.trim line))

def fieldText (field : List Char) : String :=
  let field := Text.trim field
  if field = missingField then "" else String.ofList field

/-- Status, reason and message. A line that marks neither ends its status at the first comma. -/
def fields (rest : List Char) : List Char × List Char × List Char :=
  match Text.splitFirst reasonMark rest with
  | some (status, tail) =>
    match Text.splitFirst messageMark tail with
    | some (reason, message) => (status, reason, message)
    | none => (status, tail, [])
  | none =>
    match Text.splitFirst messageMark rest with
    | some (status, message) => (status, [], message)
    | none => (rest.takeWhile (· ≠ ','), [], [])

def ofLine? (line : List Char) : Option Condition := do
  let (type, rest) ← Text.splitFirst ['='] (unquote line)
  let type := Text.trim type
  let (status, reason, message) := fields rest
  let status := Text.trim status
  if type.isEmpty || type.any Text.isBlank || status.isEmpty then none
  else some ⟨String.ofList type, String.ofList status, fieldText reason, fieldText message⟩

def reports (raw : List Char) : List Condition :=
  (Text.lines raw).filterMap ofLine?

end Condition

def Conditions.ofOutput (raw : String) : Conditions :=
  (Condition.reports raw.toList).foldl put []

end MeshTestbed
