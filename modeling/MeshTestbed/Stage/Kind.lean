namespace MeshTestbed

inductive ActionKind where
  | applyManifest
  | deleteManifest
  | createNamespace
  | deleteNamespace
  | deleteCollection
  | runExternalScript
deriving DecidableEq

/-- What a stage's command does to the cluster. -/
inductive Effect where
  | create
  | apply
  | delete
  | run
deriving DecidableEq

inductive Status where
  | succeeded
  /-- The command was rejected for a reason that means the work was done before. -/
  | tolerated
  /-- The wait ran out of time and the sequence went on. -/
  | timedOut
  | failed
  | cancelled
deriving DecidableEq

/-- What a stage does when its wait runs out of time. -/
inductive TimeoutResponse where
  | continue
  | escalate
deriving DecidableEq

namespace ActionKind

def all : List ActionKind :=
  [applyManifest, deleteManifest, createNamespace, deleteNamespace, deleteCollection,
    runExternalScript]

def text : ActionKind → String
  | applyManifest => "apply-manifest"
  | deleteManifest => "delete-manifest"
  | createNamespace => "create-namespace"
  | deleteNamespace => "delete-namespace"
  | deleteCollection => "delete-collection"
  | runExternalScript => "run-external-script"

def ofText? (s : String) : Option ActionKind := all.find? fun k => k.text == s

end ActionKind

namespace Effect

def all : List Effect := [create, apply, delete, run]

def text : Effect → String
  | create => "create"
  | apply => "apply"
  | delete => "delete"
  | run => "run"

def ofText? (s : String) : Option Effect := all.find? fun v => v.text == s

end Effect

namespace Status

def all : List Status := [succeeded, tolerated, timedOut, failed, cancelled]

def key : Status → String
  | succeeded => "succeeded"
  | tolerated => "tolerated"
  | timedOut => "timed_out"
  | failed => "failed"
  | cancelled => "cancelled"

def text : Status → String
  | succeeded => "ok"
  | timedOut => "timed-out"
  | status => status.key

def ofKey? (s : String) : Option Status := all.find? fun k => k.key == s

def isOk : Status → Bool
  | succeeded | tolerated => true
  | _ => false

/-- Whether the sequence stops after a stage of this status. -/
def endsSequence : Status → Bool
  | failed | cancelled => true
  | _ => false

end Status

namespace TimeoutResponse

def all : List TimeoutResponse := [.continue, escalate]

def text : TimeoutResponse → String
  | .continue => "continue"
  | escalate => "escalate"

def ofText? (s : String) : Option TimeoutResponse := all.find? fun p => p.text == s

end TimeoutResponse

end MeshTestbed
