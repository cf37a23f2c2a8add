import MeshTestbed.Json.Decode
import MeshTestbed.Text.Number
import MeshTestbed.Text.Search

namespace MeshTestbed

inductive WaitEnding where
  | satisfied (queries : UInt32) (elapsedMs : UInt64)
  | timedOut (queries : UInt32) (elapsedMs : UInt64) (lastSnapshot : String)
  /-- The query itself could not be run. -/
  | commandFailed (queries : UInt32) (error : String)
  | cancelled (queries : UInt32) (reason : String)
deriving DecidableEq

namespace WaitEnding

def queries : WaitEnding → UInt32
  | satisfied n _ => n
  | timedOut n _ _ => n
  | commandFailed n _ => n
  | cancelled n _ => n

def isMet : WaitEnding → Bool
  | satisfied _ _ => true
  | _ => false

def effort (queries : UInt32) (elapsedMs : UInt64) : String :=
  Text.ofNat queries.toNat ++ " attempt(s), " ++ Text.ofNat elapsedMs.toNat ++ "ms"

def oneLine (snapshot : String) : String :=
  String.ofList (Text.replaceChar '\n' " | ".toList snapshot.toList)

def render : WaitEnding → String
  | satisfied n ms => "ready after " ++ effort n ms
  | timedOut n ms snapshot =>
    "not ready after " ++ effort n ms ++
      if snapshot.isEmpty then "" else "; last seen: " ++ oneLine snapshot
  | commandFailed _ error => "query failed: " ++ error
  | cancelled _ reason => "cancelled: " ++ reason

def toJson : WaitEnding → Json
  | satisfied n ms =>
    .obj [("outcome", .str "satisfied"), ("attempts", .nat n.toNat), ("elapsed_ms", .nat ms.toNat)]
  | timedOut n ms snapshot =>
    .obj [("outcome", .str "timed_out"), ("attempts", .nat n.toNat), ("elapsed_ms", .nat ms.toNat),
      ("last_snapshot", .str snapshot)]
  | commandFailed n error =>
    .obj [("outcome", .str "command_failed"), ("attempts", .nat n.toNat), ("error", .str error)]
  | cancelled n reason =>
    .obj [("outcome", .str "cancelled"), ("attempts", .nat n.toNat), ("reason", .str reason)]

def ofJson? (v : Json) : Option WaitEnding := do
  let (tag, v) ← v.tagged? "outcome"
  if tag = "satisfied" then
    let ms ← v.fields? ["attempts", "elapsed_ms"] []
    return satisfied (← queries? ms) (← elapsed? ms)
  else if tag = "timed_out" then
    let ms ← v.fields? ["attempts", "elapsed_ms", "last_snapshot"] []
    return timedOut (← queries? ms) (← elapsed? ms) (← Json.required ms "last_snapshot" Json.text?)
  else if tag = "command_failed" then
    let ms ← v.fields? ["attempts", "error"] []
    return commandFailed (← queries? ms) (← Json.required ms "error" Json.text?)
  else if tag = "cancelled" then
    let ms ← v.fields? ["attempts", "reason"] []
    return cancelled (← queries? ms) (← Json.required ms "reason" Json.text?)
  else none
where
  queries? (ms : List (String × Json)) : Option UInt32 := Json.required ms "attempts" Json.uint32?
  elapsed? (ms : List (String × Json)) : Option UInt64 := Json.required ms "elapsed_ms" Json.uint64?

end WaitEnding

end MeshTestbed
