import Switchboard.Service.Basic
import Switchboard.Proofs.Json.Canonical

/-!
# Payloads are read back

What reading a choice or a record comes to, one lemma for each way it may go, and from them the main statement: a payload of a
faithful shape (`Shape.isFaithful`) is read back from its value (`Shape.read_canonical`, `Parcel.ofJson_toJson`). The value
has the fields of its records in the order of their names. A record is read from its members in any order: `Fields.partly` is
how far it is read when some names have been seen, and each member brings it one name further.
-/

namespace Switchboard

/-! ## Reading choices and records -/

section Reading

variable {origin : Origin} {shape : Shape} {fields : Fields} {vs : Variants} {name own title : String} {d : Draft}

/-- Any value is read in its sorted form. -/
theorem Shape.read_any (origin : Origin) (v : Json) : Shape.read origin .any (Draft.ofValue v) = .ok v.canonical := by
  rw [Shape.read.eq_def]
  simp only [Json.value_ofValue]

/-- A string is read as it is. -/
theorem Shape.read_text (origin : Origin) (expected s : String) :
    Shape.read origin (.text expected) (.string (.ok s)) = .ok s := by
  rw [Shape.read.eq_def]

/-- A whole number is read as the one of its width. -/
theorem Shape.read_int (origin : Origin) {w : Width} {n : Int} {x : w.Carrier} (h : w.ofInt? n = some x) :
    Shape.read origin (.int w) (.number (.ok (.int n))) = .ok x := by
  rw [Shape.read.eq_def]
  simp only [h]

/-- A number is read back from its value. -/
theorem Width.ofInt?_toInt : (w : Width) → (n : w.Carrier) → w.ofInt? (w.toInt n) = some n
  | .i32, n => by
    have hlow := Int32.le_toInt n
    have hhigh := Int32.toInt_lt n
    rw [Width.ofInt?, Width.toInt, if_pos ⟨by omega, by omega⟩]
    exact congrArg some (Int32.ofInt_toInt n)
  | .u32, n => by
    have hlt : UInt32.toNat n < 0x100000000 := UInt32.toNat_lt n
    rw [Width.ofInt?, Width.toInt, if_pos ⟨by omega, by omega⟩]
    exact congrArg some UInt32.ofNat_toNat
  | .i64, n => by
    have hlow := Int64.le_toInt n
    have hhigh := Int64.toInt_lt n
    rw [Width.ofInt?, Width.toInt, if_pos ⟨by omega, by omega⟩]
    exact congrArg some (Int64.ofInt_toInt n)
  | .u64, n => by
    have hlt : UInt64.toNat n < 0x10000000000000000 := UInt64.toNat_lt n
    rw [Width.ofInt?, Width.toInt, if_pos ⟨by omega, by omega⟩]
    exact congrArg some UInt64.ofNat_toNat

/-- What is not null is read as what it is. -/
theorem Shape.read_option_of_ne_null {x : shape.Carrier} (hne : d ≠ .null) (h : shape.read origin d = .ok x) :
    (Shape.option shape).read origin d = .ok (some x) := by
  rw [Shape.read.eq_def]
  simp only [h]
  rfl

/-- A choice is read from an object of one field by the name of the field. -/
theorem Shape.read_oneOf_field {x : vs.Carrier} (h : vs.readPayload origin name d = some (.ok x)) :
    (Shape.oneOf vs).read origin (.object [(.ok name, d)] .closed) = .ok x := by
  rw [Shape.read.eq_def]
  cases origin <;> simp only [h] <;> rfl

/-- A payload is read by the variant of its name. -/
theorem Variants.readPayload_holding {x : shape.Carrier} (h : shape.read origin d = .ok x) :
    (Variants.holding name shape vs).readPayload origin name d = some (.ok (.inl x)) := by
  refine (Variants.readPayload.eq_def origin (.holding name shape vs) name d).trans ((if_pos rfl).trans ?_)
  rw [h]
  rfl

/-- A variant that holds a value passes on what is not its own. -/
theorem Variants.readPayload_holding_of_ne {x : vs.Carrier} (hne : own ≠ name)
    (h : vs.readPayload origin name d = some (.ok x)) :
    (Variants.holding own shape vs).readPayload origin name d = some (.ok (.inr x)) := by
  refine (Variants.readPayload.eq_def origin (.holding own shape vs) name d).trans ((if_neg hne).trans ?_)
  rw [h]
  rfl

/-- So does one without a payload. -/
theorem Variants.readPayload_plain_of_ne {x : vs.Carrier} (hne : own ≠ name)
    (h : vs.readPayload origin name d = some (.ok x)) :
    (Variants.plain own vs).readPayload origin name d = some (.ok (.inr x)) := by
  refine (Variants.readPayload.eq_def origin (.plain own vs) name d).trans ((if_neg hne).trans ?_)
  rw [h]
  rfl

/-- A record is read from its members. -/
theorem Variants.readPayload_record {members : List (Except SyntaxFault String × Draft)} {ending : Ending}
    {x : fields.Carrier} (h : fields.readRecord origin title none (.object members ending) = .ok x) :
    (Variants.record name title fields vs).readPayload origin name (.object members ending) = some (.ok (.inl x)) := by
  have hread : (fields.readRecord origin title none (.object members ending)).map Sum.inl =
      .ok (Sum.inl x : fields.Carrier ⊕ vs.Carrier) := by
    rw [h]
    rfl
  refine (Variants.readPayload.eq_def origin (.record name title fields vs) name _).trans ((if_pos rfl).trans ?_)
  cases origin <;> exact congrArg some hread

/-- So does one with fields. -/
theorem Variants.readPayload_record_of_ne {x : vs.Carrier} (hne : own ≠ name)
    (h : vs.readPayload origin name d = some (.ok x)) :
    (Variants.record own title fields vs).readPayload origin name d = some (.ok (.inr x)) := by
  refine (Variants.readPayload.eq_def origin (.record own title fields vs) name d).trans ((if_neg hne).trans ?_)
  rw [h]
  rfl

/-- A record is read from its members. -/
theorem Fields.readRecord_object (fields : Fields) {known : Option (List String)}
    {members : List (Except SyntaxFault String × Draft)} (slots : fields.Slots) {x : fields.Carrier}
    (h : readMembers (fun name d slots => fields.put origin name d slots) known .closed fields.noSlots members = .ok slots)
    (hx : fields.close slots = .ok x) : fields.readRecord origin title known (.object members .closed) = .ok x := by
  rw [Fields.readRecord.eq_def]
  simp only [h, hx]

/-- A member that finds its slot is put there, and the next one is read. -/
theorem readMembers_cons {σ : Type} {put : String → Draft → σ → Option (Except ParcelFault σ)}
    {known : Option (List String)} {ending : Ending} {slots slots' : σ}
    {rest : List (Except SyntaxFault String × Draft)} (h : put name d slots = some (.ok slots')) :
    readMembers put known ending slots ((.ok name, d) :: rest) = readMembers put known ending slots' rest := by
  rw [readMembers]
  simp only [h]

/-- A member is put into the slot of its name; two of a name are one too many. -/
theorem Fields.put_cons (p : Presence) (slot : Option shape.Carrier) (slots : fields.Slots) :
    (Fields.cons own p shape fields).put origin name d (slot, slots) =
      if own = name then
        match slot with
        | some _ => some (.error (.duplicateField name))
        | none => some ((shape.read origin d).map fun x => (some x, slots))
      else (fields.put origin name d slots).map (·.map (slot, ·)) :=
  Fields.put.eq_def origin (.cons own p shape fields) name d (slot, slots)

/-- The first one of its name fills the slot. -/
theorem Fields.put_own (name : String) (p : Presence) {x : shape.Carrier} (fields : Fields) (slots : fields.Slots)
    (h : shape.read origin d = .ok x) :
    (Fields.cons name p shape fields).put origin name d (none, slots) = some (.ok (some x, slots)) := by
  rw [Fields.put_cons, if_pos rfl, h]
  rfl

/-- A member leaves the slots of other names alone. -/
theorem Fields.put_of_ne (p : Presence) (shape : Shape) (slot : Option shape.Carrier) {slots slots' : fields.Slots}
    (hne : own ≠ name) (h : fields.put origin name d slots = some (.ok slots')) :
    (Fields.cons own p shape fields).put origin name d (slot, slots) = some (.ok (slot, slots')) := by
  rw [Fields.put_cons, if_neg hne, h]
  rfl

end Reading

/-! ## Faithful shapes -/

/-- Whether null may be a payload of the shape. -/
def Shape.isNullable : Shape → Bool
  | .any | .unit | .option _ => true
  | .bool | .int _ | .text _ | .list _ | .record .. | .oneOf _ => false

mutual

/-- Payloads of the shape stand for one value each: no part admits any value, no value that may be missing is null when it is
there, and no two fields of a record or variants of a choice have one name. -/
def Shape.isFaithful : Shape → Bool
  | .any => false
  | .unit | .bool | .int _ | .text _ => true
  | .list item => item.isFaithful
  | .option value => !value.isNullable && value.isFaithful
  | .record _ _ fields => decide fields.names.Nodup && fields.isFaithful
  | .oneOf variants => decide variants.names.Nodup && variants.isFaithful

def Fields.isFaithful : Fields → Bool
  | .nil => true
  | .cons _ _ shape rest => shape.isFaithful && rest.isFaithful

def Variants.isFaithful : Variants → Bool
  | .nil => true
  | .plain _ rest => rest.isFaithful
  | .holding _ shape rest => shape.isFaithful && rest.isFaithful
  | .record _ _ fields rest => decide fields.names.Nodup && fields.isFaithful && rest.isFaithful

end

/-- No variant is written as null. -/
theorem Variants.encode_ne_null : (vs : Variants) → (x : vs.Carrier) → Draft.ofValue (vs.encode x).canonical ≠ .null
  | .plain _ _, .inl _ | .holding _ _ _, .inl _ | .record _ _ _ _, .inl _ => nofun
  | .plain _ rest, .inr x | .holding _ _ rest, .inr x | .record _ _ _ rest, .inr x => rest.encode_ne_null x

/-- What is not null in its shape is not null in transit. -/
theorem Shape.encode_ne_null : (s : Shape) → s.isNullable = false → ∀ x : s.Carrier,
    Draft.ofValue (s.encode x).canonical ≠ .null
  | .bool, _, _ | .int _, _, _ | .text _, _, _ | .list _, _, _ | .record .., _, _ => nofun
  | .oneOf vs, _, x => vs.encode_ne_null x

/-! ## Records -/

namespace Presence

variable {α : Type}

/-- The slot of a field, by whether its member has been read. -/
def slot (seen : Bool) : (p : Presence) → p.Carrier α → Option α
  | .required, x => if seen then some x else none
  | .defaulted, x => if seen then x else none

@[simp] theorem slot_false (p : Presence) (x : p.Carrier α) : p.slot false x = none := by
  cases p <;> rfl

/-- A field is written in front of the others, if there is anything to write. -/
theorem mem_encode {name : String} {write : α → Json} {p : Presence} {x : p.Carrier α} {rest : List (String × Json)}
    {entry : String × Json} :
    entry ∈ p.encode name write x rest ↔ (∃ y, p.slot true x = some y ∧ entry = (name, write y)) ∨ entry ∈ rest := by
  cases p with
  | required =>
    rw [Presence.encode, List.mem_cons]
    exact or_congr_left ⟨fun h => ⟨x, rfl, h⟩, fun ⟨_, hy, h⟩ => Option.some.inj hy ▸ h⟩
  | defaulted =>
    cases x with
    | none => exact ⟨.inr, fun h => h.resolve_left nofun⟩
    | some x =>
      rw [Presence.encode, List.mem_cons]
      exact or_congr_left ⟨fun h => ⟨x, rfl, h⟩, fun ⟨_, hy, h⟩ => Option.some.inj hy ▸ h⟩

/-- A field is whole once its member has been read, if it has one. -/
theorem close_slot (name : String) (whenMissing : Option α) {p : Presence} {x : p.Carrier α} {seen : Bool}
    (h : ∀ y, p.slot true x = some y → seen = true) : p.close name whenMissing (p.slot seen x) = .ok x := by
  cases p with
  | required => rw [h x rfl]; rfl
  | defaulted =>
    cases x with
    | none => cases seen <;> rfl
    | some x => rw [h x rfl]; rfl

end Presence

namespace Fields

variable {origin : Origin}

/-- The names that are written are names of fields, in the order of declaration; a field with a default may be missing. -/
theorem names_encode : (fields : Fields) → (x : fields.Carrier) → ((fields.encode x).map (·.1)).Sublist fields.names
  | .nil, _ => List.Sublist.refl _
  | .cons name .required _ rest, (_, xs) => (rest.names_encode xs).cons_cons name
  | .cons name .defaulted _ rest, (some _, xs) => (rest.names_encode xs).cons_cons name
  | .cons name .defaulted _ rest, (none, xs) => (rest.names_encode xs).cons name

/-- The slots of a record when the members of some names have been read. -/
def partly (seen : String → Bool) : (fields : Fields) → fields.Carrier → fields.Slots
  | .nil, _ => ()
  | .cons name presence _ rest, (x, xs) => (presence.slot (seen name) x, rest.partly seen xs)

/-- A record that is partly read depends on which of its own names were seen. -/
theorem partly_congr {seen seen' : String → Bool} : (fields : Fields) → (x : fields.Carrier) →
    (∀ name ∈ fields.names, seen name = seen' name) → fields.partly seen x = fields.partly seen' x
  | .nil, _, _ => rfl
  | .cons _ _ _ rest, (_, xs), h => by
    obtain ⟨hname, hrest⟩ := List.forall_mem_cons.mp h
    rw [partly, partly, hname, rest.partly_congr xs hrest]

/-- If none was, all slots are free. -/
theorem partly_none : (fields : Fields) → (x : fields.Carrier) → fields.partly (fun _ => false) x = fields.noSlots
  | .nil, _ => rfl
  | .cons _ _ _ rest, (_, xs) => by
    rw [partly, rest.partly_none xs, Presence.slot_false]
    rfl

/-- A record whose members have all been read is the record. -/
theorem close_partly {seen : String → Bool} : (fields : Fields) → (x : fields.Carrier) →
    (∀ entry ∈ fields.encode x, seen entry.1 = true) → fields.close (fields.partly seen x) = .ok x
  | .nil, _, _ => rfl
  | .cons name presence shape rest, (x, xs), h => by
    have hown : presence.close name shape.whenMissing (presence.slot (seen name) x) = .ok x :=
      Presence.close_slot _ _ fun y hy => h (name, shape.encode y) (Presence.mem_encode.mpr (.inl ⟨y, hy, rfl⟩))
    have hrest := rest.close_partly xs fun entry hentry => h entry (Presence.mem_encode.mpr (.inr hentry))
    simp only [partly, close, hown, hrest]
    rfl

/-- Members with different names are read one by one, whatever their order. -/
theorem readMembers_partly {fields : Fields} {x : fields.Carrier} (known : Option (List String))
    (hput : ∀ seen : String → Bool, ∀ entry ∈ fields.encode x, seen entry.1 = false →
      fields.put origin entry.1 (Draft.ofValue entry.2.canonical) (fields.partly seen x) =
        some (.ok (fields.partly (fun name => seen name || name == entry.1) x)))
    (members : List (String × Json)) (seen : String → Bool)
    (hmembers : ∀ member ∈ members, ∃ entry ∈ fields.encode x, member = (entry.1, entry.2.canonical))
    (hnodup : (members.map (·.1)).Nodup) (hfresh : ∀ member ∈ members, seen member.1 = false) :
    readMembers (fun name d slots => fields.put origin name d slots) known .closed (fields.partly seen x)
        (Draft.ofFields members) =
      .ok (fields.partly (fun name => seen name || (members.map (·.1)).contains name) x) := by
  induction members generalizing seen with
  | nil =>
    rw [Draft.ofFields, readMembers]
    simp [unbroken, Ending.whenRead]
  | cons member rest ih =>
    obtain ⟨⟨entry, hentry, rfl⟩, hrest⟩ := List.forall_mem_cons.mp hmembers
    obtain ⟨hnew, hfresh⟩ := List.forall_mem_cons.mp hfresh
    obtain ⟨hother, hnodup⟩ := List.nodup_cons.mp hnodup
    have hstill : ∀ member ∈ rest, (seen member.1 || member.1 == entry.1) = false := by
      intro member hmember
      have hne : member.1 ≠ entry.1 := fun heq => hother (List.mem_map.mpr ⟨member, hmember, heq⟩)
      simp [hfresh member hmember, hne]
    rw [Draft.ofFields, readMembers_cons (hput seen entry hentry hnew), ih _ hrest hnodup hstill]
    refine congrArg Except.ok (fields.partly_congr x fun name _ => ?_)
    simp [Bool.or_assoc]

/-- A record is read from its members as they are in transit, in the order of their names. -/
theorem readRecord_members {fields : Fields} {x : fields.Carrier} (title : String) (known : Option (List String))
    (hnames : fields.names.Nodup)
    (hput : ∀ seen : String → Bool, ∀ entry ∈ fields.encode x, seen entry.1 = false →
      fields.put origin entry.1 (Draft.ofValue entry.2.canonical) (fields.partly seen x) =
        some (.ok (fields.partly (fun name => seen name || name == entry.1) x))) :
    fields.readRecord origin title known (Draft.ofValue (Json.object (fields.encode x)).canonical) = .ok x := by
  have hnodup : ((Json.canonicalFields (fields.encode x)).map (·.1)).Nodup := by
    rw [Json.canonicalFields_eq_map, List.map_map]
    exact hnames.sublist (fields.names_encode x)
  have hperm := Json.sortFields_perm hnodup
  have hmem : ∀ member, member ∈ Json.sortFields (Json.canonicalFields (fields.encode x)) ↔
      ∃ entry ∈ fields.encode x, member = (entry.1, entry.2.canonical) := by
    intro member
    rw [hperm.mem_iff, Json.canonicalFields_eq_map, List.mem_map]
    exact exists_congr fun entry => and_congr_right fun _ => eq_comm
  have hread := readMembers_partly known hput (Json.sortFields (Json.canonicalFields (fields.encode x))) (fun _ => false)
    (fun member => (hmem member).mp) ((hperm.map _).nodup_iff.mpr hnodup) (fun _ _ => rfl)
  rw [fields.partly_none] at hread
  refine fields.readRecord_object _ hread (fields.close_partly x fun entry hentry => ?_)
  have hsorted := (hmem _).mpr ⟨entry, hentry, rfl⟩
  simpa using ⟨_, hsorted⟩

end Fields

/-! ## Choices -/

/-- A draft of a choice: the name of a variant, or an object whose only field is what a variant holds. -/
inductive Variants.Spelled (origin : Origin) (vs : Variants) (x : vs.Carrier) : Draft → Prop where
  | name (name : String) (hmem : name ∈ vs.names) (hread : vs.readName name = some (.ok x)) :
    Spelled origin vs x (.string (.ok name))
  | payload (name : String) (d : Draft) (hmem : name ∈ vs.names) (hread : vs.readPayload origin name d = some (.ok x)) :
    Spelled origin vs x (.object [(.ok name, d)] .closed)

namespace Variants

variable {origin : Origin} {vs : Variants} {d : Draft}

/-- A variant is read from what it is spelled as. -/
theorem Spelled.read {x : vs.Carrier} (h : Spelled origin vs x d) : (Shape.oneOf vs).read origin d = .ok x := by
  cases h with
  | name name _ hread =>
    rw [Shape.read_oneOf_name, hread]
    rfl
  | payload name d _ hread => exact Shape.read_oneOf_field hread

/-- A spelling stays one when a variant of another name, without a payload, comes in front. -/
theorem Spelled.plain {x : vs.Carrier} (h : Spelled origin vs x d) {own : String} (hown : own ∉ vs.names) :
    Spelled origin (.plain own vs) (.inr x) d := by
  cases h with
  | name name hmem hread =>
    refine .name name (List.mem_cons_of_mem own hmem) ?_
    have hne : own ≠ name := fun heq => hown (heq ▸ hmem)
    rw [readName, if_neg hne, hread]
    rfl
  | payload name d hmem hread =>
    exact .payload name d (List.mem_cons_of_mem own hmem)
      (readPayload_plain_of_ne (fun heq => hown (heq ▸ hmem)) hread)

/-- So it does when that one holds a value. -/
theorem Spelled.holding {x : vs.Carrier} (h : Spelled origin vs x d) {own : String} (shape : Shape) (hown : own ∉ vs.names) :
    Spelled origin (.holding own shape vs) (.inr x) d := by
  cases h with
  | name name hmem hread =>
    refine .name name (List.mem_cons_of_mem own hmem) ?_
    have hne : own ≠ name := fun heq => hown (heq ▸ hmem)
    rw [readName, if_neg hne, hread]
    rfl
  | payload name d hmem hread =>
    exact .payload name d (List.mem_cons_of_mem own hmem)
      (readPayload_holding_of_ne (fun heq => hown (heq ▸ hmem)) hread)

/-- So it does when that one has fields. -/
theorem Spelled.record {x : vs.Carrier} (h : Spelled origin vs x d) {own : String} (title : String) (fields : Fields)
    (hown : own ∉ vs.names) : Spelled origin (.record own title fields vs) (.inr x) d := by
  cases h with
  | name name hmem hread =>
    refine .name name (List.mem_cons_of_mem own hmem) ?_
    have hne : own ≠ name := fun heq => hown (heq ▸ hmem)
    rw [readName, if_neg hne, hread]
    rfl
  | payload name d hmem hread =>
    exact .payload name d (List.mem_cons_of_mem own hmem)
      (readPayload_record_of_ne (fun heq => hown (heq ▸ hmem)) hread)

end Variants

/-! ## Every payload of a faithful shape -/

/-- The items of a list are read back. -/
theorem readItems_map {α : Type} {read : Draft → Except ParcelFault α} {write : α → Json}
    (h : ∀ x, read (Draft.ofValue (write x).canonical) = .ok x) (done xs : List α) :
    readItems read .closed done (Draft.ofItems (Json.canonicalItems (xs.map write))) = .ok (done.reverse ++ xs) := by
  induction xs generalizing done with
  | nil =>
    rw [List.map_nil, Json.canonicalItems, Draft.ofItems, readItems, List.append_nil]
    rfl
  | cons x xs ih =>
    rw [List.map_cons, Json.canonicalItems, Draft.ofItems, readItems, h]
    simp only
    rw [ih, List.reverse_cons, List.append_assoc]
    rfl

mutual

/-- A payload of a faithful shape is read back from its value. -/
theorem Shape.read_canonical (origin : Origin) : (s : Shape) → s.isFaithful = true → ∀ x : s.Carrier,
    s.read origin (Draft.ofValue (s.encode x).canonical) = .ok x
  | .unit, _, _ => by rw [Shape.read.eq_def]; rfl
  | .bool, _, _ => by rw [Shape.read.eq_def]; rfl
  | .int w, _, n => Shape.read_int origin (w.ofInt?_toInt n)
  | .text expected, _, s => Shape.read_text origin expected s
  | .list item, h, xs => by
    have hitems := readItems_map (item.read_canonical origin h) [] xs
    rw [Shape.read.eq_def]
    exact hitems
  | .option value, h, none => by rw [Shape.read.eq_def]; rfl
  | .option value, h, some x => by
    obtain ⟨hnullable, hvalue⟩ := Bool.and_eq_true_iff.mp h
    have hread := value.read_canonical origin hvalue x
    have hne := value.encode_ne_null (by simpa using hnullable) x
    exact Shape.read_option_of_ne_null hne hread
  | .record title strict fields, h, x => by
    obtain ⟨hnames, hfields⟩ := Bool.and_eq_true_iff.mp h
    rw [Shape.read.eq_def]
    exact Fields.readRecord_members title _ (of_decide_eq_true hnames)
      (fields.put_canonical origin hfields (of_decide_eq_true hnames) x)
  | .oneOf vs, h, x => by
    obtain ⟨hnames, hvs⟩ := Bool.and_eq_true_iff.mp h
    exact (vs.spelled_canonical origin hvs (of_decide_eq_true hnames) x).read

/-- A member of a record is read into its slot. -/
theorem Fields.put_canonical (origin : Origin) : (fields : Fields) → fields.isFaithful = true → fields.names.Nodup →
    (x : fields.Carrier) → (seen : String → Bool) → ∀ entry ∈ fields.encode x, seen entry.1 = false →
    fields.put origin entry.1 (Draft.ofValue entry.2.canonical) (fields.partly seen x) =
      some (.ok (fields.partly (fun name => seen name || name == entry.1) x))
  | .cons name presence shape rest, h, hnames, (x, xs), seen, entry, hentry, hnew => by
    obtain ⟨hshape, hrest⟩ := Bool.and_eq_true_iff.mp h
    obtain ⟨hown, hnames⟩ := List.nodup_cons.mp hnames
    rcases Presence.mem_encode.mp hentry with ⟨y, hy, rfl⟩ | hlater
    · have hread := shape.read_canonical origin hshape y
      have hothers : rest.partly (fun other => seen other || other == name) xs = rest.partly seen xs :=
        rest.partly_congr xs fun other hother => by simp [ne_of_mem_of_not_mem hother hown]
      simp only at hnew
      simp only [Fields.partly, hnew, hothers, beq_self_eq_true, Bool.or_true, hy, Presence.slot_false]
      exact Fields.put_own name presence rest _ hread
    · have hne : name ≠ entry.1 := by
        rintro rfl
        exact hown ((rest.names_encode xs).subset (List.mem_map_of_mem hlater))
      have hput := rest.put_canonical origin hrest hnames xs seen entry hlater hnew
      simp only [Fields.partly, beq_eq_false_iff_ne.mpr hne, Bool.or_false]
      exact Fields.put_of_ne presence shape _ hne hput

/-- A variant that is written is spelled so. -/
theorem Variants.spelled_canonical (origin : Origin) : (vs : Variants) → vs.isFaithful = true → vs.names.Nodup →
    (x : vs.Carrier) → vs.Spelled origin x (Draft.ofValue (vs.encode x).canonical)
  | .plain name rest, _, _, .inl () => .name name List.mem_cons_self (if_pos rfl)
  | .plain _ rest, h, hnames, .inr x => by
    obtain ⟨hown, hnames⟩ := List.nodup_cons.mp hnames
    exact (rest.spelled_canonical origin h hnames x).plain hown
  | .holding name shape rest, h, _, .inl x => by
    have hread := shape.read_canonical origin (Bool.and_eq_true_iff.mp h).1 x
    rw [Variants.encode, Json.canonical_field]
    exact .payload name _ List.mem_cons_self (Variants.readPayload_holding hread)
  | .holding _ shape rest, h, hnames, .inr x => by
    obtain ⟨hown, hnames⟩ := List.nodup_cons.mp hnames
    exact (rest.spelled_canonical origin (Bool.and_eq_true_iff.mp h).2 hnames x).holding shape hown
  | .record name title fields rest, h, _, .inl x => by
    obtain ⟨hfields, -⟩ := Bool.and_eq_true_iff.mp h
    obtain ⟨hnames, hfields⟩ := Bool.and_eq_true_iff.mp hfields
    have hread := Fields.readRecord_members title none (of_decide_eq_true hnames)
      (fields.put_canonical origin hfields (of_decide_eq_true hnames) x)
    rw [Variants.encode, Json.canonical_field]
    exact .payload name _ List.mem_cons_self (Variants.readPayload_record hread)
  | .record _ title fields rest, h, hnames, .inr x => by
    obtain ⟨hown, hnames⟩ := List.nodup_cons.mp hnames
    exact (rest.spelled_canonical origin (Bool.and_eq_true_iff.mp h).2 hnames x).record title fields hown

end

namespace Parcel

variable {α : Type} [Parcel α]

/-- A payload of a faithful shape is read back from its value. -/
theorem ofJson_toJson (h : (shape α).isFaithful = true) (x : α) : ofJson (toJson x) = .ok x := by
  rw [ofJson, toJson, read, encode, (shape α).read_canonical .value h]
  exact congrArg Except.ok (ofCarrier_toCarrier x)

end Parcel

/-! ## Typed transactions -/

/-- What is written is read back. -/
theorem readParcel_toJson {α : Type} [Parcel α] (h : (Parcel.shape α).isFaithful = true) (x : α) :
    readParcel α (Parcel.toJson x) = .ok x := by
  rw [readParcel, Parcel.ofJson_toJson h]
  rfl

/-- The answer to a typed transaction is read from the answer to its payload. -/
theorem Service.transact_eq {σ : Type} (service : Service σ) (code : UInt32) {α β : Type} [Parcel α] [Parcel β] (request : α) :
    service.transact code request β = (·.bind (readParcel β)) <$> service code (Parcel.toJson request) := by
  rw [Service.transact, map_eq_pure_bind]
  refine congrArg (service code (Parcel.toJson request) >>= ·) (funext fun answer => ?_)
  cases answer <;> rfl

end Switchboard
