import MeshTestbed.Config.Basic
import MeshTestbed.Plan.Staging
import MeshTestbed.Plan.Validation

namespace MeshTestbed

/-- At most one source may be given; without any the standard subscriptions are used. -/
def OperatorSettings.source (o : OperatorSettings) : Except Misconfiguration OperatorDelivery :=
  match o.subscriptions, o.manifest with
  | some _, some _ => .error .ambiguousOperatorSource
  | none, some path => .ok (.manifest path)
  | some s, none => .ok (.subscriptions s)
  | none, none => .ok (.subscriptions .standard)

namespace Config

def planWith (source : OperatorDelivery) (c : Config) : Plan :=
  { operators :=
      { ns := c.operators.ns, source, grants := c.operators.grants
        allowEmptyNamespace := c.operators.allowEmptyNamespace }
    controlPlane :=
      { name := c.controlPlane.name, ns := c.controlPlane.ns, kind := c.controlPlane.kind
        manifest := c.controlPlane.manifest
        installed :=
          ⟨c.controlPlane.condition, c.controlPlane.requiredStatus,
            c.controlPlane.requiredReason⟩ }
    memberRoll :=
      { name := c.memberRoll.name, kind := c.memberRoll.kind, manifest := c.memberRoll.manifest
        ready := ⟨c.memberRoll.condition, "True", none⟩ }
    members := .ofList c.controlPlane.members
    smoke := c.smoke
    selection := .ofParts c.parts
    waits := c.waits.pacing
    audit := c.audit }

def plan (c : Config) : Except Misconfiguration Plan := do
  let plan := c.planWith (← c.operators.source)
  plan.check
  return plan

def checkedPlan (isFile : String → Bool) (c : Config) : Except Misconfiguration Plan := do
  let plan ← c.plan
  let missing := plan.manifestPaths.filter fun path => !isFile path
  if missing.isEmpty then return plan else throw (.missingManifests missing)

end Config

end MeshTestbed
