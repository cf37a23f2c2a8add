import MeshTestbed.Json.Decode
import MeshTestbed.Proofs.Json.Text

namespace MeshTestbed.Json

variable {α : Type} {encode : α → Json} {decode : Json → Option α} {key : String}
  {members : List (String × Json)} {depth height n bound : Nat}

theorem foldl_lookup {found : Option Json} :
    members.foldl (fun found m => if m.1 = key then some m.2 else found) found =
      (lookup key members).or found := by
  induction members generalizing found with
  | nil => rfl
  | cons m members ih =>
    rw [lookup, List.foldl_cons, List.foldl_cons, ih, ih, Option.or_assoc]
    split <;> rfl

@[simp] theorem lookup_nil : lookup key [] = none := rfl

@[simp] theorem lookup_cons {m : String × Json} :
    lookup key (m :: members) = (lookup key members).or (if m.1 = key then some m.2 else none) := by
  rw [lookup, List.foldl_cons, foldl_lookup]

-- What writes a record and what takes it apart is computed from the members alone.
attribute [simp] nat Json.optional member ofOption text? bool? fields? strictFields? tagged?
  required defaulted nullable nullable? word? choice? Fits

@[simp] theorem natBelow?_int (h : n < bound) : natBelow? bound (.int n) = some n := by
  have hbelow : (n : Int) < bound := by omega
  simp [natBelow?, intBetween?, hbelow]

@[simp] theorem uint32?_int (k : UInt32) : uint32? (.int k.toNat) = some k := by
  rw [uint32?, natBelow?_int k.toNat_lt]
  simp

@[simp] theorem uint64?_int (k : UInt64) : uint64? (.int k.toNat) = some k := by
  rw [uint64?, natBelow?_int k.toNat_lt]
  simp

theorem mapM_encode (h : ∀ a, decode (encode a) = some a) (as : List α) :
    (as.map encode).mapM decode = some as := by
  induction as with
  | nil => rfl
  | cons a as ih => simp [h a, ih]

theorem list?_arr (h : ∀ a, decode (encode a) = some a) (as : List α) :
    list? decode (.arr (as.map encode)) = some as :=
  mapM_encode h as

@[simp] theorem texts?_strs (texts : List String) : texts? (strs texts) = some texts :=
  list?_arr (fun _ => rfl : ∀ s, text? (str s) = some s) texts

@[simp] theorem fits_strs (texts : List String) : (strs texts).Fits (depth + 1) := by
  simp [strs]

/-- Data of no more than this height, from which the decoder makes the value again. -/
structure Faithful (height : Nat) (encode : α → Json) (decode : Json → Option α) : Prop where
  decode_encode : ∀ a, decode (encode a) = some a
  fits : ∀ depth a, (encode a).Fits (depth + height)

theorem Faithful.nullable?_encode (h : Faithful height encode decode) (hnull : decode null = none)
    (a : α) : nullable? decode (encode a) = some (some a) := by
  have hdecode := h.decode_encode a
  rw [nullable?, hdecode, Option.map_some]
  intro hencode
  rw [hencode, hnull] at hdecode
  cases hdecode

/-- The names of a record's members. -/
def names : Json → List String
  | obj members => members.map (·.1)
  | _ => []

/-- The data is without the member exactly if the value has nothing for it. -/
def LeavesOut (encode : α → Json) (key : String) (lacks : α → Prop) : Prop :=
  ∀ a, key ∉ (encode a).names ↔ lacks a

/-- The value comes back from its data, from the text of its data on one line, and from the indented
text at every level. -/
def RoundTrips (encode : α → Json) (decode : Json → Option α) : Prop :=
  ∀ a, decode (encode a) = some a ∧ (read? (encode a).compact).bind decode = some a ∧
    ∀ level, (read? ((encode a).pretty level)).bind decode = some a

theorem Faithful.roundTrips (h : Faithful height encode decode) (hheight : height ≤ maxDepth) :
    RoundTrips encode decode := by
  intro a
  have hfits : (encode a).Fits maxDepth := by
    have := h.fits (maxDepth - height) a
    rwa [Nat.sub_add_cancel hheight] at this
  refine ⟨h.decode_encode a, ?_, fun level => ?_⟩
  · rw [read?_compact hfits, Option.bind_some, h.decode_encode]
  · rw [read?_pretty hfits, Option.bind_some, h.decode_encode]

end MeshTestbed.Json
