import MeshTestbed.Wait.Basic
import MeshTestbed.Stage.Kind

/-!
Stages: one command against the cluster and the wait that follows it. A stage that creates something
carries the wait of its teardown, so that an uninstall is derived from the install.
-/

namespace MeshTestbed

inductive Manifest where
  | file (path : String)
  | inline (text : String)
deriving DecidableEq

inductive Action where
  | applyManifest (ns : Option String) (manifest : Manifest)
  | deleteManifest (ns : Option String) (manifest : Manifest)
  | createNamespace (name : String)
  | deleteNamespace (name : String)
  /-- Deletes every resource of a kind in a namespace. -/
  | deleteCollection (kind ns : String)
  | runExternalScript (argv : Argv)
deriving DecidableEq

/-- A named action with the wait that follows it, and the wait that follows its undoing. -/
structure Stage where
  name : String
  action : Action
  readiness : Option Wait := none
  onTimeout : TimeoutResponse := .continue
  teardownReadiness : Option Wait := none
  teardownOnTimeout : TimeoutResponse := .continue
deriving DecidableEq

namespace Manifest

def render : Manifest → String
  | file path => path
  | inline text => "<inline, " ++ Text.ofNat text.utf8ByteSize ++ " bytes>"

def toJson : Manifest → Json
  | file path => .obj [("file", .str path)]
  | inline text => .obj [("inline", .str text)]

def ofJson? : Json → Option Manifest
  | .obj [(key, .str s)] =>
    if key = "file" then some (file s) else if key = "inline" then some (inline s) else none
  | _ => none

end Manifest

namespace Action

def kind : Action → ActionKind
  | applyManifest _ _ => .applyManifest
  | deleteManifest _ _ => .deleteManifest
  | createNamespace _ => .createNamespace
  | deleteNamespace _ => .deleteNamespace
  | deleteCollection _ _ => .deleteCollection
  | runExternalScript _ => .runExternalScript

def effect : Action → Effect
  | applyManifest _ _ => .apply
  | createNamespace _ => .create
  | deleteManifest _ _ | deleteNamespace _ | deleteCollection _ _ => .delete
  | runExternalScript _ => .run

def manifest? : Action → Option Manifest
  | applyManifest _ manifest => some manifest
  | deleteManifest _ manifest => some manifest
  | _ => none

def call (tool : ClusterTool) : Action → Call
  | applyManifest ns (.file path) => ⟨tool.applyFrom ns path, none⟩
  | applyManifest ns (.inline text) => ⟨tool.applyInput ns, some text⟩
  | deleteManifest ns (.file path) => ⟨tool.deleteFrom ns path, none⟩
  | deleteManifest ns (.inline text) => ⟨tool.deleteInput ns, some text⟩
  | createNamespace name => ⟨tool.createNamespace name, none⟩
  | deleteNamespace name => ⟨tool.deleteNamespace name, none⟩
  | deleteCollection kind ns => ⟨tool.deleteEvery kind ns, none⟩
  | runExternalScript argv => ⟨argv, none⟩

/-- The action that undoes this one, if there is one. -/
def undo? : Action → Option Action
  | applyManifest ns manifest => some (deleteManifest ns manifest)
  | createNamespace name => some (deleteNamespace name)
  | _ => none

def toJson : Action → Json
  | applyManifest ns manifest => overManifest "apply_manifest" ns manifest
  | deleteManifest ns manifest => overManifest "delete_manifest" ns manifest
  | createNamespace name => .obj [("action", .str "create_namespace"), ("name", .str name)]
  | deleteNamespace name => .obj [("action", .str "delete_namespace"), ("name", .str name)]
  | deleteCollection kind ns =>
    .obj [("action", .str "delete_collection"), ("kind", .str kind), ("namespace", .str ns)]
  | runExternalScript argv => .obj [("action", .str "run_external_script"), ("argv", .strs argv)]
where
  overManifest (tag : String) (ns : Option String) (manifest : Manifest) : Json :=
    .obj [("action", .str tag), ("namespace", Json.ofOption .str ns), ("manifest", manifest.toJson)]

def ofJson? (v : Json) : Option Action := do
  let (tag, v) ← v.tagged? "action"
  if tag = "apply_manifest" then overManifest v applyManifest
  else if tag = "delete_manifest" then overManifest v deleteManifest
  else if tag = "create_namespace" then (named v).map createNamespace
  else if tag = "delete_namespace" then (named v).map deleteNamespace
  else if tag = "delete_collection" then
    let ms ← v.fields? ["kind", "namespace"] []
    let kind ← Json.required ms "kind" Json.text?
    (Json.required ms "namespace" Json.text?).map (deleteCollection kind)
  else if tag = "run_external_script" then
    let ms ← v.fields? ["argv"] []
    (Json.required ms "argv" Json.texts?).map runExternalScript
  else none
where
  overManifest (v : Json) (make : Option String → Manifest → Action) : Option Action := do
    let ms ← v.fields? ["namespace", "manifest"] []
    let ns ← Json.nullable ms "namespace" Json.text?
    (Json.required ms "manifest" Manifest.ofJson?).map (make ns)
  named (v : Json) : Option String := do
    let ms ← v.fields? ["name"] []
    Json.required ms "name" Json.text?

end Action

namespace Stage

def kind (s : Stage) : ActionKind := s.action.kind

def effect (s : Stage) : Effect := s.action.effect

def applyFrom (name : String) (ns : Option String) (path : String) : Stage :=
  { name, action := .applyManifest ns (.file path) }

def createNamespace (name : String) : Stage :=
  { name := "create-namespace-" ++ name, action := .createNamespace name }

def deleteCollection (name kind ns : String) : Stage :=
  { name, action := .deleteCollection kind ns }

def external (name : String) (argv : Argv) : Stage :=
  { name, action := .runExternalScript argv }

def awaiting (s : Stage) (wait : Wait) (policy : TimeoutResponse) : Stage :=
  { s with readiness := some wait, onTimeout := policy }

def undoneBy (s : Stage) (wait : Wait) (policy : TimeoutResponse) : Stage :=
  { s with teardownReadiness := some wait, teardownOnTimeout := policy }

def stripStart? (start : String) (name : List Char) : Option (List Char) :=
  if start.toList.isPrefixOf name then some (name.drop start.length) else none

/-- `apply-` and `create-` give way to `delete-`; any other name gets `undo-` in front. -/
def undoName (name : String) : String :=
  match (stripStart? "apply-" name.toList).or (stripStart? "create-" name.toList) with
  | some rest => "delete-" ++ String.ofList rest
  | none => "undo-" ++ name

/-- The stage that undoes this one; it waits as the teardown says. -/
def undo? (s : Stage) : Option Stage :=
  s.action.undo?.map fun action =>
    { name := undoName s.name
      action
      readiness := s.teardownReadiness
      onTimeout := s.teardownOnTimeout }

def render (s : Stage) : String :=
  s.name ++ " (" ++ s.kind.text ++ ")" ++
    match s.readiness with
    | none => ""
    | some wait => " wait " ++ wait.render ++ " [" ++ s.onTimeout.text ++ "]"

def toJson (s : Stage) : Json :=
  .obj <|
    [("name", .str s.name), ("action", s.action.toJson)] ++
      Json.optional "readiness" Wait.toJson s.readiness ++
      [("on_timeout", .str s.onTimeout.text)] ++
      Json.optional "teardown_readiness" Wait.toJson s.teardownReadiness ++
      [("teardown_on_timeout", .str s.teardownOnTimeout.text)]

def policy? (v : Json) : Option TimeoutResponse := v.choice? TimeoutResponse.ofText?

def ofJson? (v : Json) : Option Stage := do
  let ms ← v.fields?
    ["name", "action"] ["readiness", "on_timeout", "teardown_readiness", "teardown_on_timeout"]
  let name ← Json.required ms "name" Json.text?
  let action ← Json.required ms "action" Action.ofJson?
  let readiness ← Json.nullable ms "readiness" Wait.ofJson?
  let onTimeout ← Json.defaulted ms "on_timeout" .continue policy?
  let teardownReadiness ← Json.nullable ms "teardown_readiness" Wait.ofJson?
  let teardownOnTimeout ← Json.defaulted ms "teardown_on_timeout" .continue policy?
  some { name, action, readiness, onTimeout, teardownReadiness, teardownOnTimeout }

end Stage

end MeshTestbed
