import Switchboard.Capture.Service
import Switchboard.Log.Priority
import Switchboard.Power.Data
import Switchboard.Proofs.Parcel.Forms

/-!
# Payloads are a retract of JSON

The kinds of payload that the services exchange are listed in `PayloadKind`. A payload of any of them is read back from what is
written of it; and whatever a payload is read from, in any of its forms, writing it again settles on one value, which is
canonical. `RetractLaw` says so, and which values are accepted.
-/

namespace Switchboard

namespace Width

/-- The least number of a width. -/
def least : Width → Int
  | .i32 => -2 ^ 31
  | .i64 => -2 ^ 63
  | .u32 | .u64 => 0

/-- The greatest number of a width. -/
def greatest : Width → Int
  | .i32 => 2 ^ 31 - 1
  | .u32 => 2 ^ 32 - 1
  | .i64 => 2 ^ 63 - 1
  | .u64 => 2 ^ 64 - 1

/-- The numbers of a width are those from its least to its greatest. -/
theorem exists_toInt_iff (w : Width) (k : Int) : (∃ n, w.toInt n = k) ↔ w.least ≤ k ∧ k ≤ w.greatest := by
  constructor
  · rintro ⟨n, rfl⟩
    cases w with
    | i32 =>
      have hlow := Int32.le_toInt n
      have hhigh := Int32.toInt_lt n
      simp only [least, greatest, toInt]
      omega
    | u32 =>
      have hhigh := UInt32.toNat_lt n
      simp only [least, greatest, toInt]
      omega
    | i64 =>
      have hlow := Int64.le_toInt n
      have hhigh := Int64.toInt_lt n
      simp only [least, greatest, toInt]
      omega
    | u64 =>
      have hhigh := UInt64.toNat_lt n
      simp only [least, greatest, toInt]
      omega
  · rintro ⟨hlow, hhigh⟩
    have hsome : ∃ n, w.ofInt? k = some n := by
      cases w <;> simp only [least, greatest] at hlow hhigh <;> exact ⟨_, if_pos (by omega)⟩
    obtain ⟨n, hn⟩ := hsome
    exact ⟨n, w.toInt_of_ofInt? hn⟩

end Width

/-- The kinds of payload. -/
inductive PayloadKind where
  | number (w : Width)
  | bool
  | unit
  | string
  | ids
  | optionalIds
  | user
  | result
  | entity
  | state
  | stateResidencies
  | stateResidency
  | consumerResult
  | channel
  | measurement
  | entities
  | priority
  | filter
deriving DecidableEq, Repr

namespace PayloadKind

/-- The payloads of a kind. -/
def Payload : PayloadKind → Type
  | .number w => w.Carrier
  | .bool => Bool
  | .unit => Unit
  | .string => String
  | .ids => List Int32
  | .optionalIds => Option (List Int32)
  | .user => UserId
  | .result => ResultData
  | .entity => PowerEntity
  | .state => PowerState
  | .stateResidencies => StateResidencyResult
  | .stateResidency => StateResidency
  | .consumerResult => EnergyConsumerResult
  | .channel => Channel
  | .measurement => EnergyMeasurement
  | .entities => List PowerEntity
  | .priority => Priority
  | .filter => PriorityFilter

instance : (k : PayloadKind) → Parcel k.Payload
  | .number .i32 => inferInstanceAs (Parcel Int32)
  | .number .u32 => inferInstanceAs (Parcel UInt32)
  | .number .i64 => inferInstanceAs (Parcel Int64)
  | .number .u64 => inferInstanceAs (Parcel UInt64)
  | .bool => inferInstanceAs (Parcel Bool)
  | .unit => inferInstanceAs (Parcel Unit)
  | .string => inferInstanceAs (Parcel String)
  | .ids => inferInstanceAs (Parcel (List Int32))
  | .optionalIds => inferInstanceAs (Parcel (Option (List Int32)))
  | .user => inferInstanceAs (Parcel UserId)
  | .result => inferInstanceAs (Parcel ResultData)
  | .entity => inferInstanceAs (Parcel PowerEntity)
  | .state => inferInstanceAs (Parcel PowerState)
  | .stateResidencies => inferInstanceAs (Parcel StateResidencyResult)
  | .stateResidency => inferInstanceAs (Parcel StateResidency)
  | .consumerResult => inferInstanceAs (Parcel EnergyConsumerResult)
  | .channel => inferInstanceAs (Parcel Channel)
  | .measurement => inferInstanceAs (Parcel EnergyMeasurement)
  | .entities => inferInstanceAs (Parcel (List PowerEntity))
  | .priority => inferInstanceAs (Parcel Priority)
  | .filter => inferInstanceAs (Parcel PriorityFilter)

/-- The shapes of all payloads are faithful. -/
theorem isFaithful (k : PayloadKind) : (Parcel.shape k.Payload).isFaithful = true := by
  cases k with
  | number w => cases w <;> rfl
  | _ => decide

end PayloadKind

/-- A type each of whose carriers is that of a value. -/
def Parcel.IsFull (α : Type) [Parcel α] : Prop :=
  ∀ c, Parcel.toCarrier (Parcel.ofCarrier (α := α) c) = c

/-- Lists of a full type are full. -/
theorem Parcel.isFull_list {α : Type} [Parcel α] (h : Parcel.IsFull α) : Parcel.IsFull (List α) :=
  fun c => (List.map_map).trans ((List.map_congr_left fun c _ => h c).trans (List.map_id c))

/-- Optional values of a full type are full. -/
theorem Parcel.isFull_option {α : Type} [Parcel α] (h : Parcel.IsFull α) : Parcel.IsFull (Option α) := by
  intro c
  cases c with
  | none => rfl
  | some c => exact congrArg some (h c)

/-- Every carrier of an entity comes from one. -/
theorem PowerEntity.isFull : Parcel.IsFull PowerEntity := fun c => by
  have hstates := Parcel.isFull_list (α := PowerState) (fun _ => rfl) c.2.2.1
  exact congrArg (fun states => (c.1, c.2.1, states, ())) hstates

/-- So does every carrier of a priority. -/
theorem Priority.isFull : Parcel.IsFull Priority := by
  intro c
  change variants.Carrier at c
  rcases c with _ | _ | _ | _ | _ | _ | _ | _ | c
  case inr.inr.inr.inr.inr.inr.inr.inr => cases c
  all_goals rfl

/-- So does every carrier of a filter. -/
theorem PriorityFilter.isFull : Parcel.IsFull PriorityFilter := by
  intro c
  change variants.Carrier at c
  rcases c with _ | p | _ | c
  case inr.inl => exact congrArg (fun p => Sum.inr (Sum.inl p)) (Priority.isFull p)
  case inr.inr.inr => cases c
  all_goals rfl

/-- All payloads are full. -/
theorem PayloadKind.isFull (k : PayloadKind) : Parcel.IsFull k.Payload := by
  cases k with
  | number w => cases w <;> exact fun _ => rfl
  | ids => exact Parcel.isFull_list fun _ => rfl
  | optionalIds => exact Parcel.isFull_option (Parcel.isFull_list fun _ => rfl)
  | result =>
    intro c
    have hsessions := Parcel.isFull_option (Parcel.isFull_list (α := String) fun _ => rfl) c.1
    exact congrArg (fun sessions => (sessions, ())) hsessions
  | entity => exact PowerEntity.isFull
  | stateResidencies =>
    intro c
    have hresidencies := Parcel.isFull_list (α := StateResidency) (fun _ => rfl) c.2.1
    exact congrArg (fun residencies => (c.1, residencies, ())) hresidencies
  | entities => exact Parcel.isFull_list PowerEntity.isFull
  | priority => exact Priority.isFull
  | filter => exact PriorityFilter.isFull
  | _ => exact fun _ => rfl

/-! ## What is read -/

section Reading

variable {α : Type} [Parcel α]

/-- A payload is read exactly from the values that denote it. -/
theorem readParcel_iff (hfaithful : (Parcel.shape α).isFaithful = true) (hfull : Parcel.IsFull α) (v : Json) (x : α) :
    readParcel α v = .ok x ↔ (Parcel.shape α).Denotes v (Parcel.toCarrier x) := by
  have hread := (Parcel.shape α).read_iff hfaithful v
  constructor
  · intro h
    cases hv : (Parcel.shape α).read .value (Draft.ofValue v) with
    | error fault =>
      rw [readParcel, Parcel.ofJson, Parcel.read, hv] at h
      cases h
    | ok c =>
      rw [readParcel, Parcel.ofJson, Parcel.read, hv] at h
      obtain rfl := Except.ok.inj h
      rw [hfull c]
      exact (hread c).mp hv
  · intro h
    rw [readParcel, Parcel.ofJson, Parcel.read, (hread _).mpr h]
    exact congrArg Except.ok (Parcel.ofCarrier_toCarrier x)

/-- Something is read exactly from the values that denote a carrier. -/
theorem exists_readParcel_iff (hfaithful : (Parcel.shape α).isFaithful = true) (hfull : Parcel.IsFull α) (v : Json) :
    (∃ x, readParcel α v = .ok x) ↔ ∃ c, (Parcel.shape α).Denotes v c := by
  constructor
  · rintro ⟨x, hx⟩
    exact ⟨_, (readParcel_iff hfaithful hfull v x).mp hx⟩
  · rintro ⟨c, hc⟩
    exact ⟨Parcel.ofCarrier c, (readParcel_iff hfaithful hfull v _).mpr ((hfull c).symm ▸ hc)⟩

/-- A whole number is denoted by what is one and lies in its range. -/
theorem Shape.denotes_int_iff {s : Shape} {w : Width} (h : s = .int w) (v : Json) :
    (∃ c, s.Denotes v c) ↔ ∃ n, v = .number (.int n) ∧ w.least ≤ n ∧ n ≤ w.greatest := by
  subst h
  constructor
  · rintro ⟨c, rfl⟩
    exact ⟨_, rfl, (w.exists_toInt_iff _).mp ⟨c, rfl⟩⟩
  · rintro ⟨n, rfl, hn⟩
    obtain ⟨c, rfl⟩ := (w.exists_toInt_iff n).mpr hn
    exact ⟨c, rfl⟩

/-- A whole number is never read from a double, not even from one that is whole. -/
theorem readParcel_float {w : Width} (h : Parcel.shape α = .int w) (x : Double) :
    readParcel α (.number (.float x)) = .error (.badParcel (.invalidType (.floating x) w.name)) := by
  have hread : (Parcel.shape α).read .value (.number (.ok (.float x))) = .error (.invalidType (.floating x) w.name) := by
    rw [h, Shape.read.eq_def]
    rfl
  rw [readParcel, Parcel.ofJson, Parcel.read, Draft.ofValue, hread]
  rfl

end Reading

/-- Payloads are a retract of JSON values. -/
structure RetractLaw : Prop where
  /-- What is written is read back. -/
  read_write : ∀ (k : PayloadKind) (x : k.Payload), readParcel k.Payload (Parcel.toJson x) = .ok x
  /-- A payload is read from the values that denote it, and from no others. -/
  accepted : ∀ (k : PayloadKind) v (x : k.Payload),
    readParcel k.Payload v = .ok x ↔ (Parcel.shape k.Payload).Denotes v (Parcel.toCarrier x)
  /-- Whatever a payload is read from, what is written of it is canonical, is read as the same payload and written as itself. -/
  settled : ∀ (k : PayloadKind) v (x : k.Payload), readParcel k.Payload v = .ok x →
    ∃ w, Parcel.toJson x = w ∧ w.canonical = w ∧ readParcel k.Payload w = .ok x ∧
      (readParcel k.Payload w).map Parcel.toJson = .ok w
  /-- A kind of whole numbers takes the whole numbers in its range, and nothing else. -/
  whole : ∀ (k : PayloadKind) (w : Width), Parcel.shape k.Payload = .int w → ∀ v,
    (∃ x, readParcel k.Payload v = .ok x) ↔ ∃ n, v = .number (.int n) ∧ w.least ≤ n ∧ n ≤ w.greatest
  /-- A double is refused as such. -/
  floating : ∀ (k : PayloadKind) (w : Width), Parcel.shape k.Payload = .int w → ∀ x,
    readParcel k.Payload (.number (.float x)) = .error (.badParcel (.invalidType (.floating x) w.name))

/-- Payloads of every kind are a retract of JSON values. -/
theorem retract_law : RetractLaw := by
  constructor
  case read_write => exact fun k x => readParcel_toJson k.isFaithful x
  case accepted => exact fun k v x => readParcel_iff k.isFaithful k.isFull v x
  case settled =>
    intro k v x _
    have hback := readParcel_toJson k.isFaithful x
    refine ⟨Parcel.toJson x, rfl, Json.canonical_canonical _, hback, ?_⟩
    rw [hback]
    rfl
  case whole =>
    intro k w hshape v
    exact (exists_readParcel_iff k.isFaithful k.isFull v).trans (Shape.denotes_int_iff hshape v)
  case floating => exact fun k w hshape x => readParcel_float hshape x

end Switchboard
