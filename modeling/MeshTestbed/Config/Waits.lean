import MeshTestbed.Plan.Basic

namespace MeshTestbed

structure WaitChange where
  /-- Seconds between two queries. -/
  interval : Option UInt64 := none
  /-- Seconds to wait in all. -/
  timeout : Option UInt64 := none
  onTimeout : Option TimeoutResponse := none
deriving DecidableEq

structure WaitChanges where
  operatorPods : WaitChange := {}
  controlPlane : WaitChange := {}
  memberRoll : WaitChange := {}
  smoke : WaitChange := {}
  deletion : WaitChange := {}
deriving DecidableEq

namespace WaitChange

def apply (o : WaitChange) (p : Pace) : Pace :=
  { interval := (o.interval.map Span.ofSecs).getD p.interval
    timeout := (o.timeout.map Span.ofSecs).getD p.timeout
    onTimeout := o.onTimeout.getD p.onTimeout }

def toJson (o : WaitChange) : Json :=
  .obj <|
    Json.optional "interval_secs" (fun n => .nat n.toNat) o.interval ++
      Json.optional "timeout_secs" (fun n => .nat n.toNat) o.timeout ++
      Json.optional "on_timeout" (fun p => .str p.text) o.onTimeout

def ofJson? (v : Json) : Option WaitChange := do
  let ms ← v.strictFields? [] ["interval_secs", "timeout_secs", "on_timeout"]
  let interval ← Json.nullable ms "interval_secs" Json.uint64?
  let timeout ← Json.nullable ms "timeout_secs" Json.uint64?
  let onTimeout ← Json.nullable ms "on_timeout" (Json.choice? TimeoutResponse.ofText?)
  some { interval, timeout, onTimeout }

end WaitChange

namespace WaitChanges

def pacing (o : WaitChanges) : Pacing :=
  let standard := Pacing.standard
  { operatorPods := o.operatorPods.apply standard.operatorPods
    controlPlane := o.controlPlane.apply standard.controlPlane
    memberRoll := o.memberRoll.apply standard.memberRoll
    smoke := o.smoke.apply standard.smoke
    deletion := o.deletion.apply standard.deletion }

def toJson (o : WaitChanges) : Json :=
  .obj [("operator_pods", o.operatorPods.toJson), ("control_plane", o.controlPlane.toJson),
    ("member_roll", o.memberRoll.toJson), ("smoke", o.smoke.toJson),
    ("deletion", o.deletion.toJson)]

end WaitChanges

end MeshTestbed
