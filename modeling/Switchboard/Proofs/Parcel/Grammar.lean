import Switchboard.Tube.Frame
import Switchboard.Proofs.Parcel.RoundTrip

/-!
# What is read can be passed over

Reading a payload checks more than passing over it: whatever shape is wanted, a draft of which a payload is read has no break in
it (`Shape.skipped_of_read`). So a text that is not JSON (`Draft.isJson`) is refused whatever is wanted of it
(`Parcel.isJson_of_ofMessage`). The converse fails: a string that is passed over need not be UTF-8, nor a number fit a
double.
-/

namespace Switchboard

variable {α σ : Type}

/-- Whether one value can be passed over in a text, and nothing but blanks is behind it. -/
def Draft.isJson (s : List UInt8) : Bool :=
  (Draft.ofBytes s).1.skipped.isNone && (Scan.skipBlank (Draft.ofBytes s).2).isEmpty

/-! ## Lists and objects -/

/-- What is read of a text is read from one that does not break. -/
theorem unbroken_eq_ok {fault : Option SyntaxFault} {otherwise : Except ParcelFault α} {x : α}
    (h : unbroken fault otherwise = .ok x) : fault = none ∧ otherwise = .ok x := by
  cases fault with
  | none => exact ⟨rfl, h⟩
  | some fault => cases h

namespace Ending

/-- What can be read to its end can be skipped. -/
theorem whenSkipped_of_read {e : Ending} (h : e.whenRead = none) : e.whenSkipped = none := by
  cases e with
  | closed => rfl
  | cut c => cases h

/-- What is full at its end can be skipped. -/
theorem whenSkipped_of_full {e : Ending} (h : e.whenFull = none) : e.whenSkipped = none := by
  cases e with
  | closed => rfl
  | cut c => cases h

end Ending

namespace Draft

variable {d : Draft} {ending : Ending}

/-- A complaint is no success. -/
theorem mismatch_ne_ok {expected : String} {x : α} : d.mismatch expected ≠ .ok x := by
  unfold mismatch
  split <;> nofun

/-- Items that can be skipped make a list that can. -/
theorem skippedItems_eq_none {items : List Draft} (h : ∀ d ∈ items, d.skipped = none) (hend : ending.whenSkipped = none) :
    skippedItems items ending = none := by
  induction items with
  | nil => exact hend
  | cons d rest ih =>
    obtain ⟨hd, hrest⟩ := List.forall_mem_cons.mp h
    rw [skippedItems, hd]
    exact ih hrest

/-- Members that can be skipped make an object that can. -/
theorem skippedMembers_eq_none {members : List (Except SyntaxFault String × Draft)}
    (h : ∀ member ∈ members, member.2.skipped = none) (hend : ending.whenSkipped = none) :
    skippedMembers members ending = none := by
  induction members with
  | nil => exact hend
  | cons member rest ih =>
    obtain ⟨hd, hrest⟩ := List.forall_mem_cons.mp h
    rw [skippedMembers, hd]
    exact ih hrest

mutual

/-- A draft that is of a value has no break in it. -/
theorem skipped_of_value : (d : Draft) → (v : Json) → d.value = .ok v → d.skipped = none
  | .absent, _, h => by cases h
  | .broken _ _ _, _, h => by cases h
  | .null, _, _ | .bool _, _, _ | .number _, _, _ | .string _, _, _ => rfl
  | .list items _, _, h => skippedItems_of_value items _ _ h
  | .object members _, _, h => skippedMembers_of_value members _ _ h

/-- Items that can be read as values can be skipped. -/
theorem skippedItems_of_value {ending : Ending} : (items : List Draft) → (done : List Json) → (v : Json) →
    valueItems items ending done = .ok v → skippedItems items ending = none
  | [], _, _, h => by
    rw [valueItems] at h
    cases hend : ending.whenRead with
    | none => exact Ending.whenSkipped_of_read hend
    | some fault => rw [hend] at h; cases h
  | d :: rest, _, _, h => by
    rw [valueItems] at h
    cases hd : d.value with
    | error fault => rw [hd] at h; cases h
    | ok v =>
      rw [hd] at h
      rw [skippedItems, skipped_of_value d v hd]
      exact skippedItems_of_value rest _ _ h

/-- Members that can be read as values can be skipped. -/
theorem skippedMembers_of_value {ending : Ending} : (members : List (Except SyntaxFault String × Draft)) →
    (done : List (String × Json)) → (v : Json) → valueMembers members ending done = .ok v →
    skippedMembers members ending = none
  | [], _, _, h => by
    rw [valueMembers] at h
    cases hend : ending.whenRead with
    | none => exact Ending.whenSkipped_of_read hend
    | some fault => rw [hend] at h; cases h
  | (.error _, _) :: _, _, _, h => by
    rw [valueMembers] at h
    cases h
  | (.ok _, d) :: rest, _, _, h => by
    rw [valueMembers] at h
    cases hd : d.value with
    | error fault => rw [hd] at h; cases h
    | ok v =>
      rw [hd] at h
      rw [skippedMembers, skipped_of_value d v hd]
      exact skippedMembers_of_value rest _ _ h

end

end Draft

/-- Items that are read have been read one by one, to the closing bracket. -/
theorem readItems_eq_ok {read : Draft → Except ParcelFault α} {ending : Ending} {items : List Draft} {done xs : List α}
    (h : readItems read ending done items = .ok xs) : (∀ d ∈ items, ∃ x, read d = .ok x) ∧ ending.whenRead = none := by
  induction items generalizing done with
  | nil =>
    rw [readItems] at h
    exact ⟨List.forall_mem_nil _, (unbroken_eq_ok h).1⟩
  | cons d rest ih =>
    rw [readItems] at h
    cases hd : read d with
    | error fault => rw [hd] at h; cases h
    | ok x =>
      rw [hd] at h
      obtain ⟨hrest, hend⟩ := ih h
      exact ⟨List.forall_mem_cons.mpr ⟨⟨x, hd⟩, hrest⟩, hend⟩

/-- Members that are read have been put or passed over one by one, to the closing bracket. -/
theorem readMembers_eq_ok {put : String → Draft → σ → Option (Except ParcelFault σ)} {known : Option (List String)}
    {ending : Ending} {members : List (Except SyntaxFault String × Draft)} {slots slots' : σ}
    (h : readMembers put known ending slots members = .ok slots') :
    (∀ member ∈ members, (∃ name slots slots', put name member.2 slots = some (.ok slots')) ∨ member.2.skipped = none) ∧
      ending.whenRead = none := by
  induction members generalizing slots with
  | nil =>
    rw [readMembers] at h
    exact ⟨List.forall_mem_nil _, (unbroken_eq_ok h).1⟩
  | cons member rest ih =>
    obtain ⟨name | name, d⟩ := member
    · rw [readMembers] at h
      cases h
    · rw [readMembers.eq_def] at h
      dsimp only at h
      split at h
      · rename_i hput
        obtain ⟨hrest, hend⟩ := ih h
        exact ⟨List.forall_mem_cons.mpr ⟨.inl ⟨name, slots, _, hput⟩, hrest⟩, hend⟩
      · cases h
      · cases h
      · obtain ⟨hskipped, h⟩ := unbroken_eq_ok h
        obtain ⟨hrest, hend⟩ := ih h
        exact ⟨List.forall_mem_cons.mpr ⟨.inr hskipped, hrest⟩, hend⟩

/-- A list that holds a record holds nothing more. -/
theorem surplus_eq_ok {origin : Origin} {total : Nat} {ending : Ending} {left : List Draft} {x y : α}
    (h : surplus origin total ending left x = .ok y) : left = [] ∧ ending.whenFull = none := by
  cases left with
  | nil => exact ⟨rfl, (unbroken_eq_ok h).1⟩
  | cons d rest => cases origin <;> cases h

/-- A record is read from a list or an object without a break, if its fields are. -/
theorem Fields.skipped_of_readRecord {origin : Origin} {fields : Fields} {title : String} {known : Option (List String)}
    {d : Draft} {x : fields.Carrier}
    (hlist : ∀ expected ending n items x left, fields.readList origin expected ending n items = .ok (x, left) →
      ∃ taken, items = taken ++ left ∧ ∀ d ∈ taken, d.skipped = none)
    (hput : ∀ name d slots slots', fields.put origin name d slots = some (.ok slots') → d.skipped = none)
    (h : fields.readRecord origin title known d = .ok x) : d.skipped = none := by
  rw [Fields.readRecord.eq_def] at h
  split at h
  · split at h
    · cases h
    · rename_i items ending y left hread
      obtain ⟨taken, rfl, htaken⟩ := hlist _ _ _ _ _ _ hread
      obtain ⟨rfl, hfull⟩ := surplus_eq_ok h
      rw [List.append_nil]
      exact Draft.skippedItems_eq_none htaken (Ending.whenSkipped_of_full hfull)
  · split at h
    · cases h
    · rename_i members ending slots hread
      obtain ⟨hmembers, hend⟩ := readMembers_eq_ok hread
      refine Draft.skippedMembers_eq_none (fun member hmember => ?_) (Ending.whenSkipped_of_read hend)
      rcases hmembers member hmember with ⟨name, slots, slots', hslot⟩ | hskipped
      · exact hput name _ slots slots' hslot
      · exact hskipped
  · exact absurd h Draft.mismatch_ne_ok

/-- A choice is read from an object of one field, to its closing bracket. -/
theorem Shape.read_oneOf_object_eq_ok {origin : Origin} {vs : Variants}
    {members : List (Except SyntaxFault String × Draft)} {ending : Ending} {x : vs.Carrier}
    (h : (Shape.oneOf vs).read origin (.object members ending) = .ok x) :
    ∃ name d, members = [(.ok name, d)] ∧ vs.readPayload origin name d = some (.ok x) ∧ ending.whenFull = none := by
  rw [Shape.read.eq_def] at h
  dsimp only at h
  split at h
  case h_1 | h_2 =>
    split at h
    · cases h
    · cases h
    · rename_i hpayload
      obtain ⟨hfull, hx⟩ := unbroken_eq_ok h
      cases hx
      exact ⟨_, _, rfl, hpayload, hfull⟩
  · cases h
  · cases ending <;> cases h
  · cases h
  · split at h <;> cases h

/-- A choice is read from a string or from such an object, and from nothing else. -/
theorem Shape.read_oneOf_eq_ok {origin : Origin} {vs : Variants} {d : Draft} {x : vs.Carrier}
    (h : (Shape.oneOf vs).read origin d = .ok x) :
    (∃ s, d = .string s) ∨
      ∃ name payload ending, d = .object [(.ok name, payload)] ending ∧
        vs.readPayload origin name payload = some (.ok x) ∧ ending.whenFull = none := by
  cases d with
  | string s => exact .inl ⟨s, rfl⟩
  | object members ending =>
    obtain ⟨name, payload, rfl, hpayload, hfull⟩ := Shape.read_oneOf_object_eq_ok h
    exact .inr ⟨name, payload, ending, rfl, hpayload, hfull⟩
  | _ =>
    rw [Shape.read.eq_def] at h
    cases origin
    · cases h
    · exact absurd h Draft.mismatch_ne_ok

/-! ## Every shape -/

theorem map_eq_ok_iff {β ε : Type} {f : α → β} {r : Except ε α} {y : β} : r.map f = .ok y ↔ ∃ x, r = .ok x ∧ f x = y := by
  cases r <;> simp [Except.map]

theorem map_eq_ok {β ε : Type} {f : α → β} {r : Except ε α} {y : β} (h : r.map f = .ok y) : ∃ x, r = .ok x :=
  (map_eq_ok_iff.mp h).imp fun _ => And.left

mutual

/-- A draft of which a payload is read has no break in it. -/
theorem Shape.skipped_of_read (origin : Origin) : (s : Shape) → (d : Draft) → (x : s.Carrier) → s.read origin d = .ok x →
    d.skipped = none
  | .any, d, x, h => by
    rw [Shape.read.eq_def] at h
    dsimp only at h
    cases hd : d.value with
    | error fault => rw [hd] at h; cases h
    | ok v => exact d.skipped_of_value v hd
  | .unit, d, x, h => by
    rw [Shape.read.eq_def] at h
    dsimp only at h
    split at h
    · rfl
    · exact absurd h Draft.mismatch_ne_ok
  | .bool, d, x, h => by
    rw [Shape.read.eq_def] at h
    dsimp only at h
    split at h
    · rfl
    · exact absurd h Draft.mismatch_ne_ok
  | .int w, d, x, h => by
    rw [Shape.read.eq_def] at h
    dsimp only at h
    split at h
    · rfl
    · exact absurd h Draft.mismatch_ne_ok
  | .text expected, d, x, h => by
    rw [Shape.read.eq_def] at h
    dsimp only at h
    split at h
    · rfl
    · exact absurd h Draft.mismatch_ne_ok
  | .list item, d, x, h => by
    rw [Shape.read.eq_def] at h
    cases d with
    | list items ending =>
      obtain ⟨hitems, hend⟩ := readItems_eq_ok h
      refine Draft.skippedItems_eq_none (fun d hd => ?_) (Ending.whenSkipped_of_read hend)
      obtain ⟨y, hy⟩ := hitems d hd
      exact item.skipped_of_read origin d y hy
    | _ => exact absurd h Draft.mismatch_ne_ok
  | .option value, d, x, h => by
    rw [Shape.read.eq_def] at h
    dsimp only at h
    split at h
    · rfl
    · obtain ⟨y, hy⟩ := map_eq_ok h
      exact value.skipped_of_read origin d y hy
  | .record title strict fields, d, x, h => by
    rw [Shape.read.eq_def] at h
    exact Fields.skipped_of_readRecord (fields.skipped_of_readList origin) (fields.skipped_of_put origin) h
  | .oneOf vs, d, x, h => by
    rcases Shape.read_oneOf_eq_ok h with ⟨s, rfl⟩ | ⟨name, payload, ending, rfl, hpayload, hfull⟩
    · rfl
    · refine Draft.skippedMembers_eq_none (fun member hmember => ?_) (Ending.whenSkipped_of_full hfull)
      obtain rfl := List.mem_singleton.mp hmember
      exact vs.skipped_of_readPayload origin name payload x hpayload

/-- Items that are read as the fields of a record can be skipped. -/
theorem Fields.skipped_of_readList (origin : Origin) : (fields : Fields) → ∀ expected ending n items x left,
    fields.readList origin expected ending n items = .ok (x, left) →
    ∃ taken, items = taken ++ left ∧ ∀ d ∈ taken, d.skipped = none
  | .nil, expected, ending, n, items, x, left, h => by
    rw [Fields.readList.eq_def] at h
    dsimp only at h
    cases h
    exact ⟨[], rfl, List.forall_mem_nil _⟩
  | .cons name presence shape rest, expected, ending, n, [], x, left, h => by
    rw [Fields.readList.eq_def] at h
    dsimp only at h
    replace h := (unbroken_eq_ok h).2
    split at h
    · cases h
    · obtain ⟨⟨y, left'⟩, hrest⟩ := map_eq_ok h
      obtain ⟨taken, htaken, -⟩ := rest.skipped_of_readList origin _ _ _ _ _ _ hrest
      rw [hrest] at h
      cases h
      exact ⟨[], (List.append_eq_nil_iff.mp htaken.symm).2.symm, List.forall_mem_nil _⟩
  | .cons name presence shape rest, expected, ending, n, d :: items, x, left, h => by
    rw [Fields.readList.eq_def] at h
    dsimp only at h
    cases hd : shape.read origin d with
    | error fault => rw [hd] at h; cases h
    | ok y =>
      rw [hd] at h
      obtain ⟨⟨z, left'⟩, hrest⟩ := map_eq_ok h
      obtain ⟨taken, rfl, htaken⟩ := rest.skipped_of_readList origin _ _ _ _ _ _ hrest
      dsimp only at h
      rw [hrest] at h
      cases h
      exact ⟨d :: taken, rfl, List.forall_mem_cons.mpr ⟨shape.skipped_of_read origin d y hd, htaken⟩⟩

/-- So can a member that is put into its slot. -/
theorem Fields.skipped_of_put (origin : Origin) : (fields : Fields) → ∀ name d slots slots',
    fields.put origin name d slots = some (.ok slots') → d.skipped = none
  | .nil, name, d, slots, slots', h => by
    rw [Fields.put.eq_def] at h
    cases h
  | .cons own presence shape rest, name, d, (slot, slots), slots', h => by
    replace h := (Fields.put_cons presence slot slots).symm.trans h
    split at h
    · split at h
      · cases h
      · obtain ⟨y, hy⟩ := map_eq_ok (Option.some.inj h)
        exact shape.skipped_of_read origin d y hy
    · obtain ⟨r, hr, hmap⟩ := Option.map_eq_some_iff.mp h
      obtain ⟨slots'', rfl⟩ := map_eq_ok hmap
      exact rest.skipped_of_put origin name d slots slots'' hr

/-- So can the payload of a variant. -/
theorem Variants.skipped_of_readPayload (origin : Origin) : (vs : Variants) → (name : String) → (d : Draft) →
    (x : vs.Carrier) → vs.readPayload origin name d = some (.ok x) → d.skipped = none
  | .nil, name, d, x, h => by
    rw [Variants.readPayload.eq_def] at h
    cases h
  | .plain own rest, name, d, x, h => by
    rw [Variants.readPayload.eq_def] at h
    dsimp only at h
    split at h
    · cases d with
      | null => rfl
      | _ => exact absurd (Option.some.inj h) Draft.mismatch_ne_ok
    · obtain ⟨r, hr, hmap⟩ := Option.map_eq_some_iff.mp h
      obtain ⟨y, rfl⟩ := map_eq_ok hmap
      exact rest.skipped_of_readPayload origin name d y hr
  | .holding own shape rest, name, d, x, h => by
    rw [Variants.readPayload.eq_def] at h
    dsimp only at h
    split at h
    · obtain ⟨y, hy⟩ := map_eq_ok (Option.some.inj h)
      exact shape.skipped_of_read origin d y hy
    · obtain ⟨r, hr, hmap⟩ := Option.map_eq_some_iff.mp h
      obtain ⟨y, rfl⟩ := map_eq_ok hmap
      exact rest.skipped_of_readPayload origin name d y hr
  | .record own title fields rest, name, d, x, h => by
    rw [Variants.readPayload.eq_def] at h
    dsimp only at h
    split at h
    · have h := Option.some.inj h
      split at h
      · exact absurd h Draft.mismatch_ne_ok
      · obtain ⟨y, hy⟩ := map_eq_ok h
        exact Fields.skipped_of_readRecord (fields.skipped_of_readList origin) (fields.skipped_of_put origin) hy
    · obtain ⟨r, hr, hmap⟩ := Option.map_eq_some_iff.mp h
      obtain ⟨y, rfl⟩ := map_eq_ok hmap
      exact rest.skipped_of_readPayload origin name d y hr

end

namespace Parcel

variable [Parcel α]

/-- Whatever is wanted of a message, what is no JSON is refused. -/
theorem isJson_of_ofMessage {body : List UInt8} {x : α} (h : (ofMessage body : Except TubeError α) = .ok x) :
    Draft.isJson body = true := by
  rw [ofMessage, ofBytes, Draft.readWhole] at h
  dsimp only at h
  split at h
  · cases h
  · rename_i y hread
    obtain ⟨z, hz⟩ := map_eq_ok hread
    have hskipped := (shape α).skipped_of_read .text _ z hz
    split at h
    · rename_i hblank
      rw [Draft.isJson, hskipped, hblank]
      rfl
    · cases h

end Parcel

end Switchboard
