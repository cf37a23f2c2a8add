import MeshTestbed.Command.Basic
import MeshTestbed.Json.Decode
import MeshTestbed.Stage.Kind
import MeshTestbed.Text.Search

namespace MeshTestbed

structure Tolerance where
  kind : ActionKind
  effect : Effect
  patterns : List String
  label : String
deriving DecidableEq

/-- Rules in order; the first that matches names the tolerance. -/
abbrev Tolerances := List Tolerance

namespace Tolerance

def accepts (r : Tolerance) (o : Completion) : Bool :=
  r.patterns.any fun p => Text.contains o.stderr p || Text.contains o.stdout p

def toJson (r : Tolerance) : Json :=
  .obj [("kind", .str r.kind.text), ("verb", .str r.effect.text), ("patterns", .strs r.patterns),
    ("label", .str r.label)]

def ofJson? (v : Json) : Option Tolerance := do
  let ms ← v.fields? ["kind", "verb", "patterns", "label"] []
  let kind ← Json.required ms "kind" (Json.choice? ActionKind.ofText?)
  let effect ← Json.required ms "verb" (Json.choice? Effect.ofText?)
  let patterns ← Json.required ms "patterns" Json.texts?
  let label ← Json.required ms "label" Json.text?
  some ⟨kind, effect, patterns, label⟩

end Tolerance

namespace Tolerances

def strict : Tolerances := []

def standard : Tolerances :=
  [⟨.createNamespace, .create, ["AlreadyExists", "already exists"], "namespace-already-exists"⟩,
    ⟨.deleteNamespace, .delete, ["NotFound", "not found"], "namespace-not-found"⟩,
    ⟨.deleteManifest, .delete,
      ["NotFound", "not found", "the server doesn't have a resource type"], "resource-not-found"⟩,
    ⟨.deleteCollection, .delete,
      ["No resources found", "the server doesn't have a resource type"], "resource-type-gone"⟩]

/-- The label of the first rule that accepts the rejection; a success is none. -/
def label? (rules : Tolerances) (kind : ActionKind) (effect : Effect) (o : Completion) :
    Option String :=
  if o.isOk then none
  else (rules.find? fun r => r.kind == kind && r.effect == effect && r.accepts o).map (·.label)

theorem isSome_label?_iff {rules : Tolerances} {kind : ActionKind} {effect : Effect}
    {o : Completion} : (rules.label? kind effect o).isSome = true ↔
      o.isOk = false ∧ ∃ rule ∈ rules,
        rule.kind = kind ∧ rule.effect = effect ∧ rule.accepts o = true := by
  by_cases hok : o.isOk = true
  · simp [label?, hok]
  · simp [label?, hok, List.find?_isSome, and_assoc]

end Tolerances

end MeshTestbed
