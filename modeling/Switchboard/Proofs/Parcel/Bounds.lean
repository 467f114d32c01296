import Switchboard.Proofs.Json.Canonical
import Switchboard.Proofs.Socket.Messages

/-!
# How deep payloads are

A shape bounds its payloads unless it admits any value (`Shape.isTyped`): their numbers are whole, and they nest no deeper than
the shape does (`Shape.encode_bounded`). So every payload of such a shape travels, if the shape is not too deep
(`Parcel.travels_toJson`).
-/

namespace Switchboard

mutual

/-- No part of the shape admits any value. -/
def Shape.isTyped : Shape → Bool
  | .any => false
  | .unit | .bool | .int _ | .text _ => true
  | .list item => item.isTyped
  | .option value => value.isTyped
  | .record _ _ fields => fields.isTyped
  | .oneOf variants => variants.isTyped

def Fields.isTyped : Fields → Bool
  | .nil => true
  | .cons _ _ shape rest => shape.isTyped && rest.isTyped

def Variants.isTyped : Variants → Bool
  | .nil => true
  | .plain _ rest => rest.isTyped
  | .holding _ shape rest => shape.isTyped && rest.isTyped
  | .record _ _ fields rest => fields.isTyped && rest.isTyped

end

mutual

/-- How many brackets may be open where a value of the shape is deepest. -/
def Shape.depth : Shape → Nat
  | .any | .unit | .bool | .int _ | .text _ => 0
  | .list item => item.depth + 1
  | .option value => value.depth
  | .record _ _ fields => fields.depth + 1
  | .oneOf variants => variants.depth

def Fields.depth : Fields → Nat
  | .nil => 0
  | .cons _ _ shape rest => max shape.depth rest.depth

def Variants.depth : Variants → Nat
  | .nil => 0
  | .plain _ rest => rest.depth
  | .holding _ shape rest => max (shape.depth + 1) rest.depth
  | .record _ _ fields rest => max (fields.depth + 2) rest.depth

end

/-- A value with whole numbers that nests no deeper than a limit. -/
structure Json.Bounded (limit : Nat) (v : Json) : Prop where
  whole : v.isWhole = true
  depth_le : v.depth ≤ limit

/-- A bound may be raised. -/
theorem Json.Bounded.mono {limit limit' : Nat} {v : Json} (h : v.Bounded limit) (hle : limit ≤ limit') : v.Bounded limit' :=
  ⟨h.whole, Nat.le_trans h.depth_le hle⟩

/-- A list is one level deeper than its items. -/
theorem Json.bounded_array {limit : Nat} {items : List Json} (h : ∀ v ∈ items, v.Bounded limit) :
    (Json.array items).Bounded (limit + 1) := by
  induction items with
  | nil => exact ⟨rfl, Nat.succ_le_succ (Nat.zero_le _)⟩
  | cons v rest ih =>
    obtain ⟨hv, hrest⟩ := List.forall_mem_cons.mp h
    obtain ⟨hwhole, hdepth⟩ := ih hrest
    refine ⟨?_, Nat.succ_le_succ (max_le hv.depth_le (Nat.le_of_succ_le_succ hdepth))⟩
    change (v.isWhole && isWholeItems rest) = true
    rw [hv.whole]
    exact hwhole

/-- An object is one level deeper than its fields. -/
theorem Json.bounded_object {limit : Nat} {fields : List (String × Json)} (h : ∀ entry ∈ fields, entry.2.Bounded limit) :
    (Json.object fields).Bounded (limit + 1) :=
  ⟨isWholeFields_iff.mpr fun entry hentry => (h entry hentry).whole,
    Nat.succ_le_succ (depthFields_le_iff.mpr fun entry hentry => (h entry hentry).depth_le)⟩

theorem Json.bounded_field {limit : Nat} {v : Json} (name : String) (h : v.Bounded limit) :
    (Json.object [(name, v)]).Bounded (limit + 1) := by
  refine Json.bounded_object fun entry hentry => ?_
  obtain rfl := List.mem_singleton.mp hentry
  exact h

/-- The numbers of a width are whole. -/
theorem Width.bounded_toInt (w : Width) (n : w.Carrier) : (Json.number (.int (w.toInt n))).Bounded 0 := by
  refine ⟨?_, Nat.le_refl _⟩
  simp only [Json.isWhole, Number.isWhole, Bool.and_eq_true, decide_eq_true_eq]
  cases w with
  | i32 =>
    have hlow := Int32.le_toInt n
    have hhigh := Int32.toInt_lt n
    simp only [Width.toInt]
    omega
  | u32 =>
    have hlt := UInt32.toNat_lt n
    simp only [Width.toInt]
    omega
  | i64 =>
    have hlow := Int64.le_toInt n
    have hhigh := Int64.toInt_lt n
    simp only [Width.toInt]
    omega
  | u64 =>
    have hlt := UInt64.toNat_lt n
    simp only [Width.toInt]
    omega

mutual

/-- A payload of a typed shape is no deeper than the shape. -/
theorem Shape.encode_bounded : (s : Shape) → s.isTyped = true → ∀ x : s.Carrier, (s.encode x).Bounded s.depth
  | .unit, _, _ => ⟨rfl, Nat.le_refl _⟩
  | .bool, _, _ => ⟨rfl, Nat.le_refl _⟩
  | .int w, _, n => w.bounded_toInt n
  | .text _, _, _ => ⟨rfl, Nat.le_refl _⟩
  | .list item, h, xs => by
    refine Json.bounded_array fun v hv => ?_
    obtain ⟨x, -, rfl⟩ := List.mem_map.mp hv
    exact item.encode_bounded h x
  | .option _, _, none => ⟨rfl, Nat.zero_le _⟩
  | .option value, h, some x => value.encode_bounded h x
  | .record _ _ fields, h, x => Json.bounded_object (fields.encode_bounded h x)
  | .oneOf variants, h, x => variants.encode_bounded h x

/-- A record that is written is no deeper than its shape. -/
theorem Fields.encode_bounded : (fields : Fields) → fields.isTyped = true → ∀ x : fields.Carrier,
    ∀ entry ∈ fields.encode x, entry.2.Bounded fields.depth
  | .nil, _, _, _, h => nomatch h
  | .cons name presence shape rest, h, (x, xs), entry, hentry => by
    obtain ⟨hshape, hrest⟩ := Bool.and_eq_true_iff.mp h
    have hlater : ∀ entry ∈ rest.encode xs, entry.2.Bounded (max shape.depth rest.depth) := fun entry hentry =>
      (rest.encode_bounded hrest xs entry hentry).mono (Nat.le_max_right _ _)
    cases presence with
    | required =>
      rcases List.mem_cons.mp hentry with rfl | hentry
      · exact (shape.encode_bounded hshape x).mono (Nat.le_max_left _ _)
      · exact hlater entry hentry
    | defaulted =>
      cases x with
      | none => exact hlater entry hentry
      | some x =>
        rcases List.mem_cons.mp hentry with rfl | hentry
        · exact (shape.encode_bounded hshape x).mono (Nat.le_max_left _ _)
        · exact hlater entry hentry

/-- Neither is a variant that is written. -/
theorem Variants.encode_bounded : (vs : Variants) → vs.isTyped = true → ∀ x : vs.Carrier, (vs.encode x).Bounded vs.depth
  | .nil, _, x => nomatch x
  | .plain _ _, _, .inl _ => ⟨rfl, Nat.zero_le _⟩
  | .plain _ rest, h, .inr x => rest.encode_bounded h x
  | .holding name shape rest, h, .inl x => by
    have hvalue := shape.encode_bounded (Bool.and_eq_true_iff.mp h).1 x
    exact (Json.bounded_field name hvalue).mono (Nat.le_max_left _ _)
  | .holding _ shape rest, h, .inr x =>
    (rest.encode_bounded (Bool.and_eq_true_iff.mp h).2 x).mono (Nat.le_max_right _ _)
  | .record name _ fields rest, h, .inl x => by
    have hvalue := Json.bounded_object (fields.encode_bounded (Bool.and_eq_true_iff.mp h).1 x)
    exact (Json.bounded_field name hvalue).mono (Nat.le_max_left _ _)
  | .record _ _ fields rest, h, .inr x =>
    (rest.encode_bounded (Bool.and_eq_true_iff.mp h).2 x).mono (Nat.le_max_right _ _)

end

/-- Every payload of a typed shape travels, if the shape is not too deep. -/
theorem Parcel.travels_toJson {α : Type} [Parcel α] {limit : Nat} (htyped : (Parcel.shape α).isTyped = true)
    (hdepth : (Parcel.shape α).depth ≤ limit) (x : α) : (Parcel.toJson x).Travels limit := by
  obtain ⟨hwhole, hle⟩ := (Parcel.shape α).encode_bounded htyped (Parcel.toCarrier x)
  refine ⟨Json.canonical_canonical _, Json.isWhole_canonical _ hwhole, ?_⟩
  exact (Json.depth_canonical_le _).trans (hle.trans hdepth)

end Switchboard
