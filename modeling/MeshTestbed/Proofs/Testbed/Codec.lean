import MeshTestbed.Proofs.Plan.Codec
import MeshTestbed.Run.Inventory
import MeshTestbed.Wait.Ending

namespace MeshTestbed

open Json (Faithful LeavesOut RoundTrips)

theorem WaitEnding.faithful : Faithful 1 toJson ofJson? where
  decode_encode ending := by
    cases ending <;>
      simp -implicitDefEqProofs [toJson, ofJson?, ofJson?.queries?, ofJson?.elapsed?]
  fits _ ending := by cases ending <;> simp [toJson]

theorem Container.faithful : Faithful 1 toJson ofJson? where
  decode_encode c := by simp [toJson, ofJson?]
  fits _ c := by simp [toJson]

theorem PodListing.faithful : Faithful 3 toJson ofJson? where
  decode_encode p := by simp [toJson, ofJson?, Json.list?_arr Container.faithful.decode_encode]
  fits _ p := by simp [toJson, Container.faithful.fits]

theorem NamespaceListing.faithful : Faithful 5 toJson ofJson? where
  decode_encode n := by
    rcases n with ⟨ns, pods, _ | error⟩ <;>
      simp [toJson, ofJson?, Json.list?_arr PodListing.faithful.decode_encode]
  fits _ n := by
    rcases n with ⟨ns, pods, _ | error⟩ <;> simp [toJson, PodListing.faithful.fits]

theorem NamespaceListing.leavesOut_error : LeavesOut toJson "error" (·.error = none) := by
  rintro ⟨ns, pods, _ | error⟩ <;> simp [toJson, Json.names]

theorem PackageListing.faithful : Faithful 2 toJson ofJson? where
  decode_encode p := by rcases p with ⟨ns, pod, packages, _ | error⟩ <;> simp [toJson, ofJson?]
  fits _ p := by rcases p with ⟨ns, pod, packages, _ | error⟩ <;> simp [toJson]

theorem PackageListing.leavesOut_error : LeavesOut toJson "error" (·.error = none) := by
  rintro ⟨ns, pod, packages, _ | error⟩ <;> simp [toJson, Json.names]

theorem Inventory.faithful : Faithful 7 toJson ofJson? where
  decode_encode r := by
    rcases r with ⟨namespaces, _ | ⟨listing, packages⟩⟩
    · simp [toJson, ofJson?, Json.list?_arr NamespaceListing.faithful.decode_encode]
    · have hpackages := Json.list?_arr PackageListing.faithful.decode_encode (listing :: packages)
      rw [List.map_cons] at hpackages
      simp [toJson, ofJson?, Json.list?_arr NamespaceListing.faithful.decode_encode, hpackages]
  fits depth r := by
    have hpackages := PackageListing.faithful.fits (depth + 3)
    rcases r with ⟨namespaces, _ | ⟨listing, packages⟩⟩ <;>
      simp [toJson, NamespaceListing.faithful.fits, hpackages]

theorem Inventory.leavesOut_packages : LeavesOut toJson "packages" (·.packages = []) := by
  rintro ⟨namespaces, _ | ⟨listing, packages⟩⟩ <;> simp [toJson, Json.names]

/-- Every stage, plan, ending of a wait and inventory comes back from its data, from the text of its
data on one line and from the indented one. Yet a wait, a namespace, a reason, a count, an audit and
an error that are not there are left out of the data, and so is an empty list of packages. -/
theorem data_roundTrips :
    (RoundTrips Stage.toJson Stage.ofJson? ∧ RoundTrips Plan.toJson Plan.ofJson? ∧
      RoundTrips WaitEnding.toJson WaitEnding.ofJson? ∧
      RoundTrips Inventory.toJson Inventory.ofJson?) ∧
    (LeavesOut Stage.toJson "readiness" (·.readiness = none) ∧
      LeavesOut Stage.toJson "teardown_readiness" (·.teardownReadiness = none)) ∧
    LeavesOut Wait.toJson "namespace" (·.ns = none) ∧
    LeavesOut ConditionDemand.toJson "required_reason" (·.reason = none) ∧
    LeavesOut (fun n => (Goal.podsReady n).toJson) "expected_containers" (· = none) ∧
    LeavesOut Plan.toJson "package_audit" (·.audit = none) ∧
    LeavesOut NamespaceListing.toJson "error" (·.error = none) ∧
    LeavesOut PackageListing.toJson "error" (·.error = none) ∧
    LeavesOut Inventory.toJson "packages" (·.packages = []) :=
  ⟨⟨Stage.faithful.roundTrips (by decide), Plan.faithful.roundTrips (by decide),
      WaitEnding.faithful.roundTrips (by decide), Inventory.faithful.roundTrips (by decide)⟩,
    Stage.leavesOut_waits, Wait.leavesOut_namespace, ConditionDemand.leavesOut_reason,
    Goal.leavesOut_expected, Plan.leavesOut_audit, NamespaceListing.leavesOut_error,
    PackageListing.leavesOut_error, Inventory.leavesOut_packages⟩

end MeshTestbed
