import MeshTestbed.Plan.Codec
import MeshTestbed.Proofs.Stage.Codec

namespace MeshTestbed

open Json (Faithful LeavesOut)

theorem Selection.faithful : Faithful 1 toJson ofJson? where
  decode_encode c := by simp [toJson, ofJson?]
  fits _ c := by simp [toJson]

theorem Pace.faithful : Faithful 2 toJson ofJson? where
  decode_encode p := by
    simp -implicitDefEqProofs [-Json.choice?, toJson, ofJson?, Span.faithful.decode_encode,
      TimeoutResponse.choice?_text]
  fits _ p := by simp [toJson, Span.faithful.fits]

theorem Pacing.faithful : Faithful 3 toJson ofJson? where
  decode_encode w := by
    simp -implicitDefEqProofs [toJson, ofJson?, Pace.faithful.decode_encode]
  fits _ w := by simp [toJson, Pace.faithful.fits]

theorem Subscriptions.faithful : Faithful 1 toJson ofJson? where
  decode_encode s := by simp [toJson, ofJson?]
  fits _ s := by simp [toJson]

theorem OperatorDelivery.faithful : Faithful 2 toJson ofJson? where
  decode_encode delivery := by
    cases delivery <;> simp [toJson, ofJson?, Subscriptions.faithful.decode_encode]
  fits _ delivery := by cases delivery <;> simp [toJson, Subscriptions.faithful.fits]

theorem Grant.faithful : Faithful 1 toJson ofJson? where
  decode_encode g := by simp [toJson, ofJson?]
  fits _ g := by simp [toJson]

theorem Operators.faithful : Faithful 3 toJson ofJson? where
  decode_encode o := by
    simp [toJson, ofJson?, OperatorDelivery.faithful.decode_encode,
      Json.list?_arr Grant.faithful.decode_encode]
  fits _ o := by simp [toJson, OperatorDelivery.faithful.fits, Grant.faithful.fits]

theorem ControlPlane.faithful : Faithful 2 toJson ofJson? where
  decode_encode c := by simp [toJson, ofJson?, ConditionDemand.faithful.decode_encode]
  fits _ c := by simp [toJson, ConditionDemand.faithful.fits]

theorem MemberRoll.faithful : Faithful 2 toJson ofJson? where
  decode_encode m := by simp [toJson, ofJson?, ConditionDemand.faithful.decode_encode]
  fits _ m := by simp [toJson, ConditionDemand.faithful.fits]

theorem SmokeTest.faithful : Faithful 1 toJson ofJson? where
  decode_encode s := by
    rcases s with ⟨ns, manifest, _ | expected⟩ <;> simp -implicitDefEqProofs [toJson, ofJson?]
  fits _ s := by rcases s with ⟨ns, manifest, _ | expected⟩ <;> simp [toJson]

theorem PackageAudit.faithful : Faithful 1 toJson ofJson? where
  decode_encode a := by simp [toJson, ofJson?]
  fits _ a := by simp [toJson]

theorem PackageAudit.nullable?_toJson (a : PackageAudit) :
    Json.nullable? ofJson? a.toJson = some (some a) :=
  faithful.nullable?_encode rfl a

namespace NameSet

theorem toList_inj {a b : NameSet} (h : a.toList = b.toList) : a = b := by
  cases a
  cases b
  cases h
  rfl

theorem insertSorted_of_forall_lt {name : String} {names : List String}
    (h : ∀ other ∈ names, other < name) : insertSorted name names = names ++ [name] := by
  induction names with
  | nil => rfl
  | cons other names ih =>
    obtain ⟨hother, hnames⟩ := List.forall_mem_cons.1 h
    have hne : name ≠ other := fun heq => String.lt_irrefl _ (heq ▸ hother)
    rw [insertSorted, if_neg (String.lt_asymm hother), if_neg hne, ih hnames, List.cons_append]

theorem foldl_insert_toList {set : NameSet} {names : List String}
    (h : (set.toList ++ names).Pairwise (· < ·)) :
    (names.foldl insert set).toList = set.toList ++ names := by
  induction names generalizing set with
  | nil => simp
  | cons name names ih =>
    have hlast : (set.insert name).toList = set.toList ++ [name] :=
      insertSorted_of_forall_lt fun other hother =>
        (List.pairwise_append.1 h).2.2 other hother name List.mem_cons_self
    rw [List.foldl_cons, ih (by simpa [hlast] using h), hlast, List.append_assoc]
    rfl

theorem ofList_toList (set : NameSet) : ofList set.toList = set :=
  toList_inj (foldl_insert_toList set.ordered)

end NameSet

theorem Plan.faithful : Faithful 4 toJson ofJson? where
  decode_encode p := by
    rcases p with ⟨operators, controlPlane, memberRoll, members, smoke, selection, waits,
      _ | audit⟩ <;>
      simp -implicitDefEqProofs [-Json.nullable?, toJson, ofJson?, Operators.faithful.decode_encode,
        ControlPlane.faithful.decode_encode, MemberRoll.faithful.decode_encode,
        NameSet.ofList_toList, SmokeTest.faithful.decode_encode, Selection.faithful.decode_encode,
        Pacing.faithful.decode_encode, PackageAudit.nullable?_toJson]
  fits _ p := by
    rcases p with ⟨operators, controlPlane, memberRoll, members, smoke, selection, waits,
      _ | audit⟩ <;>
      simp [toJson, Operators.faithful.fits, ControlPlane.faithful.fits, MemberRoll.faithful.fits,
        SmokeTest.faithful.fits, Selection.faithful.fits, Pacing.faithful.fits,
        PackageAudit.faithful.fits]

theorem Plan.leavesOut_audit : LeavesOut toJson "package_audit" (·.audit = none) := by
  rintro ⟨operators, controlPlane, memberRoll, members, smoke, selection, waits, _ | audit⟩ <;>
    simp [toJson, Json.names]

end MeshTestbed
