import MeshTestbed.Proofs.Json.Record
import MeshTestbed.Stage.Basic

/-!
Where a field is a number, simp justifies its steps one by one (`-implicitDefEqProofs`): the
kernel would otherwise count up to the bound of the number's type.
-/

namespace MeshTestbed

open Json (Faithful LeavesOut)

theorem ConditionDemand.faithful : Faithful 1 toJson ofJson? where
  decode_encode demand := by
    rcases demand with ⟨type, status, _ | reason⟩ <;> simp [toJson, members, ofJson?]
  fits _ demand := by
    rcases demand with ⟨type, status, _ | reason⟩ <;> simp [toJson, members]

theorem ConditionDemand.leavesOut_reason :
    LeavesOut toJson "required_reason" (·.reason = none) := by
  rintro ⟨type, status, _ | reason⟩ <;> simp [toJson, members, Json.names]

theorem Goal.ofJson?_condition (demand : ConditionDemand) :
    ofJson? (condition demand).toJson = some (condition demand) := by
  rcases demand with ⟨type, status, _ | reason⟩ <;>
    simp [toJson, members, ConditionDemand.members, ofJson?, ConditionDemand.ofJson?]

theorem Goal.faithful : Faithful 1 toJson ofJson? where
  decode_encode goal := by
    cases goal with
    | condition demand => exact ofJson?_condition demand
    | podsSettled allowEmpty => simp [toJson, members, ofJson?]
    | podsReady expected =>
      cases expected <;> simp -implicitDefEqProofs [toJson, members, ofJson?]
    | absent => simp [toJson, members, ofJson?]
  fits _ goal := by
    rcases goal with ⟨type, status, _ | reason⟩ | allowEmpty | (_ | expected) | _ <;>
      simp [toJson, members, ConditionDemand.members]

theorem Goal.leavesOut_expected :
    LeavesOut (fun expected => (podsReady expected).toJson) "expected_containers" (· = none) := by
  rintro (_ | expected) <;> simp [toJson, members, Json.names]

theorem Target.faithful : Faithful 1 toJson ofJson? where
  decode_encode target := by cases target <;> simp [toJson, ofJson?]
  fits _ target := by cases target <;> simp [toJson]

theorem Span.ofParts?_parts (s : Span) : ofParts? s.secs.toNat s.nanos = some s := by
  have hcarry : s.nanos.val / 1000000000 = 0 := Nat.div_eq_of_lt s.nanos.isLt
  simp [ofParts?, hcarry, s.secs.toNat_lt]

theorem Span.faithful : Faithful 1 toJson ofJson? where
  decode_encode s := by
    have hsecs : s.secs.toNat < UInt64.size := s.secs.toNat_lt
    have hnanos : s.nanos.val < UInt32.size := Nat.lt_trans s.nanos.isLt (by decide)
    simp -implicitDefEqProofs [toJson, ofJson?, Option.filter_some, hsecs, hnanos, ofParts?_parts]
  fits _ s := by simp [toJson]

theorem Wait.faithful : Faithful 2 toJson ofJson? where
  decode_encode wait := by
    rcases wait with ⟨target, _ | ns, goal, interval, timeout⟩ <;>
      simp -implicitDefEqProofs [toJson, ofJson?, Target.faithful.decode_encode,
        Goal.faithful.decode_encode, Span.faithful.decode_encode]
  fits _ wait := by
    rcases wait with ⟨target, _ | ns, goal, interval, timeout⟩ <;>
      simp [toJson, Target.faithful.fits, Goal.faithful.fits, Span.faithful.fits]

theorem Wait.leavesOut_namespace : LeavesOut toJson "namespace" (·.ns = none) := by
  rintro ⟨target, _ | ns, goal, interval, timeout⟩ <;> simp [toJson, Json.names]

theorem Wait.nullable?_toJson (wait : Wait) :
    Json.nullable? ofJson? wait.toJson = some (some wait) :=
  faithful.nullable?_encode rfl wait

theorem Manifest.faithful : Faithful 1 toJson ofJson? where
  decode_encode manifest := by cases manifest <;> simp [toJson, ofJson?]
  fits _ manifest := by cases manifest <;> simp [toJson]

theorem Action.faithful : Faithful 2 toJson ofJson? where
  decode_encode action := by
    cases action with
    | applyManifest ns manifest | deleteManifest ns manifest =>
      cases ns <;>
        simp [toJson, toJson.overManifest, ofJson?, ofJson?.overManifest,
          Manifest.faithful.decode_encode]
    | createNamespace name | deleteNamespace name =>
      simp [toJson, ofJson?, ofJson?.named]
    | deleteCollection kind ns => simp [toJson, ofJson?]
    | runExternalScript argv => simp [toJson, ofJson?]
  fits _ action := by
    cases action with
    | applyManifest ns manifest | deleteManifest ns manifest =>
      cases ns <;> simp [toJson, toJson.overManifest, Manifest.faithful.fits]
    | createNamespace name | deleteNamespace name => simp [toJson]
    | deleteCollection kind ns => simp [toJson]
    | runExternalScript argv => simp [toJson]

theorem TimeoutResponse.choice?_text (response : TimeoutResponse) :
    Json.choice? ofText? (.str response.text) = some response := by
  cases response <;> rfl

theorem Stage.faithful : Faithful 3 toJson ofJson? where
  decode_encode s := by
    rcases s with ⟨name, action, _ | readiness, onTimeout, _ | teardown, teardownOnTimeout⟩ <;>
      simp -implicitDefEqProofs [-Json.choice?, -Json.nullable?, toJson, ofJson?, policy?,
        Action.faithful.decode_encode, Wait.nullable?_toJson, TimeoutResponse.choice?_text]
  fits _ s := by
    rcases s with ⟨name, action, _ | readiness, onTimeout, _ | teardown, teardownOnTimeout⟩ <;>
      simp [toJson, Action.faithful.fits, Wait.faithful.fits]

theorem Stage.leavesOut_waits :
    LeavesOut toJson "readiness" (·.readiness = none) ∧
      LeavesOut toJson "teardown_readiness" (·.teardownReadiness = none) := by
  constructor <;>
    rintro ⟨name, action, _ | readiness, onTimeout, _ | teardown, teardownOnTimeout⟩ <;>
    simp [toJson, Json.names]

end MeshTestbed
