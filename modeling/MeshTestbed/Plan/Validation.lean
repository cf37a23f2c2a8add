import MeshTestbed.Error
import MeshTestbed.Plan.Basic

namespace MeshTestbed.Plan

/-- Keys and values that the selected parts may not leave blank. -/
def requiredFields (p : Plan) : List (String × String) :=
  (if p.selection.operators then [("operators.namespace", p.operators.ns)] else []) ++
    (if p.selection.controlPlane then
      [("control_plane.name", p.controlPlane.name), ("control_plane.namespace", p.controlPlane.ns),
        ("control_plane.kind", p.controlPlane.kind), ("member_roll.name", p.memberRoll.name),
        ("member_roll.kind", p.memberRoll.kind)]
    else []) ++
    (if p.selection.smoke then [("smoke.namespace", p.smoke.ns)] else [])

def blankFields (p : Plan) : List String :=
  (p.requiredFields.filter fun f => Text.isBlankText f.2).map (·.1)

def fault? (p : Plan) : Option Misconfiguration :=
  if !(p.selection.operators || p.selection.controlPlane || p.selection.smoke) then
    some .nothingSelected
  else if !p.blankFields.isEmpty then some (.emptyFields p.blankFields)
  else if p.members.toList.any Text.isBlankText then some .emptyMemberNamespace
  else if p.selection.smoke && p.smoke.expectedContainers == some 0 then
    some .zeroExpectedContainers
  else none

def check (p : Plan) : Except Misconfiguration Unit :=
  match p.fault? with
  | some e => .error e
  | none => .ok ()

end MeshTestbed.Plan
