import MeshTestbed.Run.Session

/-!
The wait for readiness. Queries are an interval apart; the one that ends at or after the deadline is
the last. A query that reports an error is a "not yet", one that cannot be run ends the wait.
-/

namespace MeshTestbed.Wait

variable {σ : Type}

def maxQueries : Nat := UInt32.size - 1

def elapsedMs (started now : Nat) : UInt64 := UInt64.ofNat (min (now - started) (UInt64.size - 1))

def resume (wait : Wait) (runner : Runner σ) (query : Call) (started : Nat) :
    (left queries : Nat) → RunM σ WaitEnding
  | 0, queries => do
    match ← RunM.cancelled with
    | some reason => return .cancelled (UInt32.ofNat queries) reason
    | none => throw .queryOverflow
  | left + 1, queries => do
    match ← RunM.cancelled with
    | some reason => return .cancelled (UInt32.ofNat queries) reason
    | none =>
      let count := UInt32.ofNat (queries + 1)
      match ← RunM.call runner query with
      | .error e => return .commandFailed count e.message
      | .ok output =>
        let seen := wait.goal.judge output
        let now := (← get).now
        if seen.satisfied then return .satisfied count (elapsedMs started now)
        else if wait.timeout.toNanos ≤ (now - started) * 1000000 then
          return .timedOut count (elapsedMs started now) seen.snapshot
        else
          match ← RunM.sleep runner wait.interval with
          | some reason => return .cancelled count reason
          | none => resume wait runner query started left (queries + 1)

/-- Waits from now on. A deadline past the last instant of the clock ends the run. -/
def run (wait : Wait) (runner : Runner σ) (tool : ClusterTool) : RunM σ WaitEnding := do
  let s ← get
  if s.canWait wait.timeout then
    wait.resume runner ⟨wait.queryArgv tool, none⟩ s.now maxQueries 0
  else throw .deadlineOverflow

end MeshTestbed.Wait
