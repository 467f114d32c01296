import Switchboard.Proofs.Parcel.Grammar

/-!
# The forms of a payload

`Shape.Denotes` says which values denote a payload of a shape, and which payload: a whole number one in range, a list its
items, an optional payload null or what it holds. A record is denoted by the list of its fields in their order, or by an object
in which no field comes twice; such an object may have further members, unless the record is strict, and a field that has no
member is an optional one. A variant is denoted by its name, if it holds nothing, or by an object whose only member is of that
name.

A payload of a faithful shape is read from a value exactly if the value denotes it (`Shape.read_iff`). Which fault is reported of
any other value is not said here.
-/

namespace Switchboard

/-! ## What a value denotes -/

/-- A field is what the value of its member denotes. Without a member it is what stands for a field that is missing. -/
def Presence.Denotes {α : Type} (whenMissing : Option α) (denotes : Json → α → Prop) :
    (p : Presence) → Option Json → p.Carrier α → Prop
  | .required, some v, x => denotes v x
  | .required, none, x => whenMissing = some x
  | .defaulted, some v, x => ∃ y, x = some y ∧ denotes v y
  | .defaulted, none, x => x = none

/-- No field has two members; of a strict record every member is a field. -/
structure Fields.Admits (fields : Fields) (strict : Bool) (members : List (String × Json)) : Prop where
  once : ∀ name ∈ fields.names, (members.map Prod.fst).count name ≤ 1
  known : strict = true → ∀ member ∈ members, member.1 ∈ fields.names

mutual

/-- The value denotes the payload. -/
def Shape.Denotes : (s : Shape) → Json → s.Carrier → Prop
  | .any, v, x => v.canonical = x
  | .unit, v, _ => v = .null
  | .bool, v, b => v = .bool b
  | .int w, v, n => v = .int (w.toInt n)
  | .text _, v, s => v = .string s
  | .list item, v, xs => ∃ items, v = .array items ∧ List.Forall₂ item.Denotes items xs
  | .option _, v, none => v = .null
  | .option value, v, some x => v ≠ .null ∧ value.Denotes v x
  | .record _ strict fields, v, x =>
    (∃ items, v = .array items ∧ fields.DenotesItems items x) ∨
      ∃ members, v = .object members ∧ fields.Admits strict members ∧ fields.DenotesMembers members x
  | .oneOf variants, v, x => variants.Denotes v x

/-- The items denote the fields in their order. -/
def Fields.DenotesItems : (fields : Fields) → List Json → fields.Carrier → Prop
  | .nil, items, _ => items = []
  | .cons _ presence shape rest, items, (x, xs) =>
    presence.Denotes none shape.Denotes items.head? x ∧ rest.DenotesItems items.tail xs

/-- The members denote the fields by their names. -/
def Fields.DenotesMembers : (fields : Fields) → List (String × Json) → fields.Carrier → Prop
  | .nil, _, _ => True
  | .cons name presence shape rest, members, (x, xs) =>
    presence.Denotes shape.whenMissing shape.Denotes (members.lookup name) x ∧ rest.DenotesMembers members xs

/-- The value denotes the variant with what it holds. -/
def Variants.Denotes : (vs : Variants) → Json → vs.Carrier → Prop
  | .plain name _, v, .inl _ => v = .string name ∨ v = .object [(name, .null)]
  | .plain _ rest, v, .inr x => rest.Denotes v x
  | .holding name shape _, v, .inl x => ∃ held, v = .object [(name, held)] ∧ shape.Denotes held x
  | .holding _ _ rest, v, .inr x => rest.Denotes v x
  | .record name _ fields _, v, .inl x =>
    ∃ members, v = .object [(name, .object members)] ∧ fields.Admits false members ∧ fields.DenotesMembers members x
  | .record _ _ _ rest, v, .inr x => rest.Denotes v x

end

/-! ## Slots -/

namespace Fields

/-- The slots hold what has been read of the members so far. -/
def Holds : (fields : Fields) → List (String × Json) → fields.Slots → Prop
  | .nil, _, _ => True
  | .cons name _ shape rest, seen, (slot, slots) =>
    (seen.lookup name).map (fun v => shape.read .value (Draft.ofValue v)) = slot.map Except.ok ∧ rest.Holds seen slots

/-- Without members all slots are free. -/
theorem holds_noSlots : (fields : Fields) → fields.Holds [] fields.noSlots
  | .nil => trivial
  | .cons _ _ _ rest => ⟨rfl, rest.holds_noSlots⟩

/-- What a slot holds depends on the members of its own name alone. -/
theorem Holds.congr {seen seen' : List (String × Json)} : {fields : Fields} → {slots : fields.Slots} →
    fields.Holds seen slots → (∀ name ∈ fields.names, seen.lookup name = seen'.lookup name) → fields.Holds seen' slots
  | .nil, _, _, _ => trivial
  | .cons _ _ _ _, (_, _), h, hsame => by
    obtain ⟨hname, hrest⟩ := List.forall_mem_cons.mp hsame
    exact ⟨hname ▸ h.1, h.2.congr hrest⟩

/-- What has been read is settled by the members. -/
theorem Holds.unique {seen : List (String × Json)} : {fields : Fields} → {slots slots' : fields.Slots} →
    fields.Holds seen slots → fields.Holds seen slots' → slots = slots'
  | .nil, _, _, _, _ => rfl
  | .cons _ _ _ _, (_, _), (_, _), h, h' => by
    have hslot := Option.map_injective (fun _ _ => Except.ok.inj) (h.1.symm.trans h'.1)
    rw [hslot, h.2.unique h'.2]

/-- A member that is no field is not put anywhere. -/
theorem put_of_not_mem {origin : Origin} {name : String} {d : Draft} : {fields : Fields} → (slots : fields.Slots) →
    name ∉ fields.names → fields.put origin name d slots = none
  | .nil, _, _ => by rw [put.eq_def]
  | .cons own presence shape rest, (slot, slots), h => by
    obtain ⟨hown, hrest⟩ := not_or.mp (List.mem_cons.not.mp h)
    rw [put_cons, if_neg fun heq => hown heq.symm, put_of_not_mem slots hrest]
    rfl

/-- A second member of one name is refused. -/
theorem put_of_seen {seen : List (String × Json)} {name : String} {d : Draft} : {fields : Fields} → {slots : fields.Slots} →
    fields.Holds seen slots → name ∈ fields.names → name ∈ seen.map Prod.fst →
    ∃ fault, fields.put .value name d slots = some (.error fault)
  | .cons own presence shape rest, (slot, slots), h, hmem, hseen => by
    rw [put_cons]
    split
    · rename_i hown
      subst hown
      cases hslot : slot with
      | some x => exact ⟨_, rfl⟩
      | none =>
        have hnone : seen.lookup own = none := Option.map_eq_none_iff.mp (hslot ▸ h.1)
        obtain ⟨member, hmember, rfl⟩ := List.mem_map.mp hseen
        exact absurd (List.lookup_eq_none_iff.mp hnone member hmember) (by simp)
    · rename_i hown
      obtain ⟨fault, hfault⟩ := put_of_seen (d := d) h.2 (List.mem_of_ne_of_mem (Ne.symm hown) hmem) hseen
      exact ⟨fault, by rw [hfault]; rfl⟩

/-- The first member of a field is put into its slot, if it can be read; if it cannot, nothing that follows makes up for it. -/
theorem put_of_new {seen : List (String × Json)} {name : String} {v : Json} : {fields : Fields} → {slots : fields.Slots} →
    fields.Holds seen slots → fields.names.Nodup → name ∈ fields.names → seen.lookup name = none →
    (∃ slots', fields.put .value name (Draft.ofValue v) slots = some (.ok slots') ∧
        fields.Holds (seen ++ [(name, v)]) slots') ∨
      (∃ fault, fields.put .value name (Draft.ofValue v) slots = some (.error fault)) ∧
        ∀ more slots', ¬fields.Holds (seen ++ (name, v) :: more) slots'
  | .cons own presence shape rest, (slot, slots), h, hnames, hmem, hnew => by
    obtain ⟨hown, hnames⟩ := List.nodup_cons.mp hnames
    have hlookup : ∀ more other, (seen ++ (name, v) :: more).lookup other =
        if other = name then some v else (seen ++ more).lookup other := by
      intro more other
      rw [List.lookup_append, List.lookup_cons, List.lookup_append]
      by_cases heq : other = name
      · rw [if_pos heq, heq, hnew, beq_self_eq_true]
        rfl
      · rw [if_neg heq, beq_eq_false_iff_ne.mpr heq]
    have hothers : ∀ {other}, other ≠ name → (seen ++ [(name, v)]).lookup other = seen.lookup other := by
      intro other hne
      rw [hlookup, if_neg hne, List.append_nil]
    rw [put_cons]
    by_cases heq : own = name
    · subst heq
      have hslot : slot = none := by
        have hheld := h.1
        rw [hnew] at hheld
        exact Option.map_eq_none_iff.mp hheld.symm
      have hrest : rest.Holds (seen ++ [(own, v)]) slots :=
        h.2.congr fun other hother => (hothers (ne_of_mem_of_not_mem hother hown)).symm
      rw [if_pos rfl, hslot]
      cases hread : shape.read .value (Draft.ofValue v) with
      | ok x =>
        refine .inl ⟨(some x, slots), rfl, ?_, hrest⟩
        rw [hlookup, if_pos rfl, Option.map_some, hread]
        rfl
      | error fault =>
        refine .inr ⟨⟨fault, rfl⟩, fun more slots' hheld => ?_⟩
        have hfield := hheld.1
        rw [hlookup, if_pos rfl, Option.map_some, hread] at hfield
        obtain ⟨y, -, hy⟩ := Option.map_eq_some_iff.mp hfield.symm
        cases hy
    · rw [if_neg heq]
      have hfield : (seen ++ [(name, v)]).lookup own = seen.lookup own := hothers heq
      rcases put_of_new (v := v) h.2 hnames (List.mem_of_ne_of_mem (Ne.symm heq) hmem) hnew with
        ⟨slots', hput, hheld⟩ | ⟨⟨fault, hput⟩, hnever⟩
      · refine .inl ⟨(slot, slots'), by rw [hput]; rfl, ?_, hheld⟩
        rw [hfield]
        exact h.1
      · exact .inr ⟨⟨fault, by rw [hput]; rfl⟩, fun more slots' hheld => hnever more slots'.2 hheld.2⟩

/-- A record that has taken the members so far takes one more, unless it is a second one of a field. -/
theorem Admits.snoc {fields : Fields} {strict : Bool} {seen : List (String × Json)} {member : String × Json}
    (h : fields.Admits strict seen) (hnew : member.1 ∈ fields.names → member.1 ∉ seen.map Prod.fst)
    (hknown : strict = true → member.1 ∈ fields.names) : fields.Admits strict (seen ++ [member]) := by
  constructor
  · intro name hname
    rw [List.map_append, List.count_append, List.map_singleton, List.count_singleton]
    split
    · rename_i heq
      obtain rfl := beq_iff_eq.mp heq
      rw [List.count_eq_zero_of_not_mem (hnew hname)]
    · exact h.once name hname
  · intro hstrict other hother
    rcases List.mem_append.mp hother with hother | hother
    · exact h.known hstrict other hother
    · obtain rfl := List.mem_singleton.mp hother
      exact hknown hstrict

/-- Members are read exactly if a record takes them and each field can be read from its member. -/
theorem readMembers_iff {fields : Fields} (hnames : fields.names.Nodup) (strict : Bool) (members : List (String × Json))
    {seen : List (String × Json)} {slots : fields.Slots} (hadmits : fields.Admits strict seen) (hheld : fields.Holds seen slots)
    (slots' : fields.Slots) :
    readMembers (fun name d slots => fields.put .value name d slots) (if strict then some fields.names else none) .closed
        slots (Draft.ofFields members) = .ok slots' ↔
      fields.Admits strict (seen ++ members) ∧ fields.Holds (seen ++ members) slots' := by
  induction members generalizing seen slots with
  | nil =>
    rw [List.append_nil, Draft.ofFields, readMembers]
    constructor
    · intro h
      obtain rfl := Except.ok.inj h
      exact ⟨hadmits, hheld⟩
    · rintro ⟨-, h⟩
      rw [hheld.unique h]
      rfl
  | cons member rest ih =>
    obtain ⟨name, v⟩ := member
    rw [Draft.ofFields, readMembers.eq_def]
    dsimp only
    by_cases hmem : name ∈ fields.names
    · by_cases hseen : name ∈ seen.map Prod.fst
      · -- a second member of the field is refused, and the record does not take it
        obtain ⟨fault, hput⟩ := put_of_seen (d := Draft.ofValue v) hheld hmem hseen
        rw [hput]
        refine iff_of_false (fun h => by cases h) ?_
        rintro ⟨h, -⟩
        have honce := h.once name hmem
        have hpos := List.count_pos_iff.mpr hseen
        rw [List.map_append, List.count_append, List.map_cons, List.count_cons_self] at honce
        omega
      · have hnew : seen.lookup name = none := by
          refine List.lookup_eq_none_iff.mpr fun member hmember => bne_iff_ne.mpr ?_
          rintro rfl
          exact hseen (List.mem_map_of_mem hmember)
        rcases put_of_new (v := v) hheld hnames hmem hnew with ⟨next, hput, hnext⟩ | ⟨⟨fault, hput⟩, hnever⟩
        · rw [hput, List.append_cons seen (name, v) rest]
          exact ih (hadmits.snoc (fun _ => hseen) fun _ => hmem) hnext
        · rw [hput]
          exact iff_of_false (fun h => by cases h) fun h => hnever rest slots' h.2
    · rw [put_of_not_mem slots hmem]
      cases strict with
      | true => exact iff_of_false (fun h => by cases h) fun h => hmem (h.1.known rfl (name, v) (by simp))
      | false =>
        have hskipped : (Draft.ofValue v).skipped = none := Draft.skipped_of_value _ _ (Json.value_ofValue v)
        have hpassed : fields.Holds (seen ++ [(name, v)]) slots := by
          refine hheld.congr fun other hother => ?_
          have hne : other ≠ name := ne_of_mem_of_not_mem hother hmem
          rw [List.lookup_append, List.lookup_cons, beq_eq_false_iff_ne.mpr hne]
          exact (Option.or_none).symm
        rw [List.append_cons seen (name, v) rest]
        simp only [hskipped, unbroken]
        exact ih (hadmits.snoc (fun h => absurd h hmem) fun h => absurd h Bool.false_ne_true) hpassed

end Fields

/-! ## One field -/

namespace Presence

variable {α : Type} {whenMissing : Option α} {denotes : Json → α → Prop}

/-- A field is closed exactly if its member, if there is one, could be read. -/
theorem close_iff (name : String) (read : Json → Except ParcelFault α) {p : Presence} {member : Option Json}
    {x : p.Carrier α} :
    (∃ slot, member.map read = slot.map Except.ok ∧ p.close name whenMissing slot = .ok x) ↔
      p.Denotes whenMissing (fun v y => read v = .ok y) member x := by
  constructor
  · rintro ⟨slot, hslot, hclose⟩
    cases member with
    | none =>
      obtain rfl := Option.map_eq_none_iff.mp hslot.symm
      cases p with
      | required => cases hm : whenMissing <;> rw [hm] at hclose <;> cases hclose; rfl
      | defaulted => exact (Except.ok.inj hclose).symm
    | some v =>
      obtain ⟨y, rfl, hy⟩ := Option.map_eq_some_iff.mp hslot.symm
      cases p with
      | required => exact hy.symm.trans (congrArg Except.ok (Except.ok.inj hclose))
      | defaulted => exact ⟨y, (Except.ok.inj hclose).symm, hy.symm⟩
  · intro h
    cases p with
    | required =>
      cases member with
      | none => exact ⟨none, rfl, by rw [show whenMissing = some x from h]; rfl⟩
      | some v => exact ⟨some x, congrArg some h, rfl⟩
    | defaulted =>
      cases member with
      | none => exact ⟨none, rfl, congrArg Except.ok h.symm⟩
      | some v =>
        obtain ⟨y, rfl, hy⟩ := h
        exact ⟨some y, congrArg some hy, rfl⟩

/-- A field that is there is what is read of it. -/
theorem denotes_given {p : Presence} {v : Json} {x : p.Carrier α} :
    p.Denotes whenMissing denotes (some v) x ↔ ∃ y, p.given y = x ∧ denotes v y := by
  cases p with
  | required => exact ⟨fun h => ⟨x, rfl, h⟩, fun ⟨_, hy, h⟩ => hy ▸ h⟩
  | defaulted => exact ⟨fun ⟨y, hy, h⟩ => ⟨y, hy.symm, h⟩, fun ⟨y, hy, h⟩ => ⟨y, hy.symm, h⟩⟩

/-- A list of fields that is too short has all but those that may be left out. -/
theorem whenShort_iff {shortfall : ParcelFault} {p : Presence} {x : p.Carrier α} :
    p.whenShort shortfall = .ok x ↔ p.Denotes none denotes none x := by
  cases p with
  | required => exact ⟨nofun, nofun⟩
  | defaulted => exact ⟨fun h => (Except.ok.inj h).symm, fun h => congrArg Except.ok h.symm⟩

end Presence

/-! ## Variants -/

/-- A mismatch is one whatever was wanted of the value. -/
theorem Draft.map_mismatch {α β : Type} {f : α → β} {d : Draft} {expected : String} :
    (d.mismatch expected).map f = d.mismatch expected := by
  rw [mismatch, mismatch]
  cases d.found <;> rfl

namespace Variants

/-- A value that denotes a variant is its name, or an object whose only member is of its name. -/
theorem tagged : (vs : Variants) → {v : Json} → {x : vs.Carrier} → vs.Denotes v x →
    ∃ name ∈ vs.names, v = .string name ∨ ∃ held, v = .object [(name, held)]
  | .plain name _, _, .inl _, h => ⟨name, List.mem_cons_self, h.imp_right fun h => ⟨_, h⟩⟩
  | .holding name _ _, _, .inl _, h => by
    obtain ⟨held, h, -⟩ := h
    exact ⟨name, List.mem_cons_self, .inr ⟨held, h⟩⟩
  | .record name _ _ _, _, .inl _, h => by
    obtain ⟨members, h, -⟩ := h
    exact ⟨name, List.mem_cons_self, .inr ⟨_, h⟩⟩
  | .plain own rest, _, .inr x, h | .holding own _ rest, _, .inr x, h | .record own _ _ rest, _, .inr x, h => by
    obtain ⟨name, hmem, h⟩ := rest.tagged h
    exact ⟨name, List.mem_cons_of_mem own hmem, h⟩

/-- A variant that a name denotes has this name. -/
theorem mem_of_name (vs : Variants) {name : String} {x : vs.Carrier} (h : vs.Denotes (.string name) x) :
    name ∈ vs.names := by
  obtain ⟨other, hmem, heq | ⟨held, heq⟩⟩ := vs.tagged h
  · obtain rfl := Json.string.inj heq
    exact hmem
  · cases heq

/-- So has one that an object denotes. -/
theorem mem_of_payload (vs : Variants) {name : String} {held : Json} {x : vs.Carrier}
    (h : vs.Denotes (.object [(name, held)]) x) : name ∈ vs.names := by
  obtain ⟨other, hmem, heq | ⟨held, heq⟩⟩ := vs.tagged h
  · cases heq
  · simp only [Json.object.injEq, List.cons.injEq, Prod.mk.injEq, and_true] at heq
    exact heq.1 ▸ hmem

section Choice

variable {α β : Type} {own name : String} (first : Except ParcelFault α) {later : Option (Except ParcelFault β)}

/-- The first variant is read if it is of that name. -/
theorem first_iff {a : α} :
    (if own = name then some (first.map Sum.inl) else later.map (·.map Sum.inr)) = some (.ok (.inl a : α ⊕ β)) ↔
      own = name ∧ first = .ok a := by
  by_cases heq : own = name
  · rw [if_pos heq]
    cases first <;> simp [Except.map, heq]
  · rw [if_neg heq]
    rcases later with _ | _ | b <;> simp [Except.map, heq]

/-- One of the others is read if it is not; when that is of another name anyway, it is as if the first one were not there. -/
theorem later_iff {b : β} {denotes : Prop} (hlater : later = some (.ok b) ↔ denotes) (hne : denotes → own ≠ name) :
    (if own = name then some (first.map Sum.inl) else later.map (·.map Sum.inr)) = some (.ok (.inr b : α ⊕ β)) ↔
      denotes := by
  by_cases heq : own = name
  · rw [if_pos heq]
    refine ⟨fun h => ?_, fun h => absurd heq (hne h)⟩
    cases first <;> simp [Except.map] at h
  · rw [if_neg heq, ← hlater]
    rcases later with _ | _ | other <;> simp [Except.map]

end Choice

section Payload

variable {own name title : String} {shape : Shape} {fields : Fields} {rest : Variants} {d : Draft}

/-- How the payload of a choice is read if its first variant has none. -/
theorem readPayload_plain : (Variants.plain own rest).readPayload .value name d =
    if own = name then some ((Shape.unit.read .value d).map Sum.inl)
    else (rest.readPayload .value name d).map (·.map Sum.inr) := by
  refine (readPayload.eq_def .value (.plain own rest) name d).trans ?_
  rw [Shape.read.eq_def]
  cases d with
  | null => rfl
  | _ => exact congrArg (ite _ · _) (congrArg some Draft.map_mismatch.symm)

/-- The same if its first variant holds a value. -/
theorem readPayload_held : (Variants.holding own shape rest).readPayload .value name d =
    if own = name then some ((shape.read .value d).map Sum.inl)
    else (rest.readPayload .value name d).map (·.map Sum.inr) :=
  readPayload.eq_def .value (.holding own shape rest) name d

/-- The same if its first variant has fields. -/
theorem readPayload_fields : (Variants.record own title fields rest).readPayload .value name d =
    if own = name then
      some (Except.map Sum.inl (match d with
        | .list items ending => (Draft.list items ending).mismatch "struct variant"
        | d => fields.readRecord .value title none d))
    else (rest.readPayload .value name d).map (·.map Sum.inr) := by
  refine (readPayload.eq_def .value (.record own title fields rest) name d).trans ?_
  cases d with
  | list items ending => exact congrArg (ite _ · _) (congrArg some Draft.map_mismatch.symm)
  | _ => rfl

/-- The fields of a variant are read as those of a record are, but never from a list. -/
theorem readFields_iff {held : Json} {x : fields.Carrier}
    (hrecord : fields.readRecord .value title none (Draft.ofValue held) = .ok x ↔
      (∃ items, held = .array items ∧ fields.DenotesItems items x) ∨
        ∃ members, held = .object members ∧ fields.Admits false members ∧ fields.DenotesMembers members x) :
    (match Draft.ofValue held with
      | .list items ending => (Draft.list items ending).mismatch "struct variant"
      | d => fields.readRecord .value title none d) = .ok x ↔
      ∃ members, held = .object members ∧ fields.Admits false members ∧ fields.DenotesMembers members x := by
  cases held with
  | array items =>
    refine ⟨fun h => absurd h Draft.mismatch_ne_ok, ?_⟩
    rintro ⟨members, h, -⟩
    cases h
  | _ =>
    refine hrecord.trans (or_iff_right ?_)
    rintro ⟨items, h, -⟩
    cases h

end Payload

/-- A variant is read from a name exactly if the name denotes it. -/
theorem readName_iff {name : String} : {vs : Variants} → {x : vs.Carrier} → vs.names.Nodup →
    (vs.readName name = some (.ok x) ↔ vs.Denotes (.string name) x)
  | .plain own rest, .inl (), _ => by
    refine (first_iff (.ok ())).trans ?_
    simp [Denotes, eq_comm]
  | .holding own shape rest, .inl x, _ => by
    refine (first_iff (.error _)).trans ?_
    simp [Denotes]
  | .record own title fields rest, .inl x, _ => by
    refine (first_iff (.error _)).trans ?_
    simp [Denotes]
  | .plain own rest, .inr x, hnames => by
    obtain ⟨hown, hnames⟩ := List.nodup_cons.mp hnames
    exact later_iff (.ok ()) (readName_iff hnames) fun h =>
      (ne_of_mem_of_not_mem (rest.mem_of_name h) hown).symm
  | .holding own shape rest, .inr x, hnames => by
    obtain ⟨hown, hnames⟩ := List.nodup_cons.mp hnames
    exact later_iff (.error _) (readName_iff hnames) fun h =>
      (ne_of_mem_of_not_mem (rest.mem_of_name h) hown).symm
  | .record own title fields rest, .inr x, hnames => by
    obtain ⟨hown, hnames⟩ := List.nodup_cons.mp hnames
    exact later_iff (.error _) (readName_iff hnames) fun h =>
      (ne_of_mem_of_not_mem (rest.mem_of_name h) hown).symm

end Variants

/-! ## Values that are read -/

/-- Items are read one by one. -/
theorem readItems_iff {α : Type} {read : Draft → Except ParcelFault α} {items : List Json} {done xs : List α} :
    readItems read .closed done (Draft.ofItems items) = .ok xs ↔
      ∃ ys, xs = done.reverse ++ ys ∧ List.Forall₂ (fun v y => read (Draft.ofValue v) = .ok y) items ys := by
  induction items generalizing done with
  | nil =>
    rw [Draft.ofItems, readItems]
    constructor
    · intro h
      exact ⟨[], (Except.ok.inj h).symm.trans (List.append_nil _).symm, .nil⟩
    · rintro ⟨ys, rfl, hys⟩
      cases hys
      rw [List.append_nil]
      rfl
  | cons v rest ih =>
    rw [Draft.ofItems, readItems]
    cases hv : read (Draft.ofValue v) with
    | error fault =>
      refine iff_of_false (fun h => by cases h) ?_
      rintro ⟨ys, -, hys⟩
      cases hys with
      | cons hy _ => cases hv.symm.trans hy
    | ok y =>
      refine ih.trans ?_
      constructor
      · rintro ⟨ys, rfl, hys⟩
        exact ⟨y :: ys, by simp, .cons hv hys⟩
      · rintro ⟨ys, rfl, hys⟩
        cases hys with
        | cons hy hys =>
          obtain rfl := Except.ok.inj (hv.symm.trans hy)
          exact ⟨_, by simp, hys⟩

namespace Fields

section Lists

variable {name expected : String} {n : Nat} {presence : Presence} {shape : Shape} {rest : Fields}
  {x : presence.Carrier shape.Carrier} {xs : rest.Carrier}

/-- A list that is too short is read if what is missing may be missing. -/
theorem readList_nil_iff :
    (Fields.cons name presence shape rest).readList .value expected .closed n [] = .ok ((x, xs), []) ↔
      presence.whenShort (.invalidLength n expected) = .ok x ∧
        rest.readList .value expected .closed (n + 1) [] = .ok (xs, []) := by
  rw [readList.eq_def]
  dsimp only [unbroken, Ending.whenRead]
  cases hshort : presence.whenShort (α := shape.Carrier) (.invalidLength n expected) with
  | error fault => exact ⟨nofun, fun h => nomatch h.1⟩
  | ok y =>
    refine map_eq_ok_iff.trans ?_
    constructor
    · rintro ⟨⟨ys, left⟩, hys, heq⟩
      obtain ⟨⟨rfl, rfl⟩, rfl⟩ := Prod.mk.inj heq |>.imp_left Prod.mk.inj
      exact ⟨rfl, hys⟩
    · rintro ⟨hy, hxs⟩
      obtain rfl := Except.ok.inj hy
      exact ⟨(xs, []), hxs, rfl⟩

/-- An item is read as the field at its place. -/
theorem readList_cons_iff {d : Draft} {items : List Draft} :
    (Fields.cons name presence shape rest).readList .value expected .closed n (d :: items) = .ok ((x, xs), []) ↔
      (∃ y, presence.given y = x ∧ shape.read .value d = .ok y) ∧
        rest.readList .value expected .closed (n + 1) items = .ok (xs, []) := by
  rw [readList.eq_def]
  dsimp only
  cases hread : shape.read .value d with
  | error fault =>
    refine ⟨nofun, ?_⟩
    rintro ⟨⟨y, -, hy⟩, -⟩
    cases hy
  | ok y =>
    refine map_eq_ok_iff.trans ?_
    constructor
    · rintro ⟨⟨ys, left⟩, hys, heq⟩
      obtain ⟨⟨hy, rfl⟩, rfl⟩ := Prod.mk.inj heq |>.imp_left Prod.mk.inj
      exact ⟨⟨y, hy, rfl⟩, hys⟩
    · rintro ⟨⟨z, hz, hread'⟩, hxs⟩
      obtain rfl := Except.ok.inj hread'
      exact ⟨(xs, []), hxs, congrArg (fun first => ((first, xs), [])) hz⟩

/-- A record is closed field by field. -/
theorem close_cons_iff {members : List (String × Json)} :
    (∃ slots, (Fields.cons name presence shape rest).Holds members slots ∧
        (Fields.cons name presence shape rest).close slots = .ok (x, xs)) ↔
      (∃ slot, (members.lookup name).map (fun v => shape.read .value (Draft.ofValue v)) = slot.map Except.ok ∧
          presence.close name shape.whenMissing slot = .ok x) ∧
        ∃ slots, rest.Holds members slots ∧ rest.close slots = .ok xs := by
  constructor
  · rintro ⟨⟨slot, slots⟩, ⟨hslot, hslots⟩, hclose⟩
    dsimp only [close] at hclose
    split at hclose
    · cases hclose
    · rename_i y hy
      obtain ⟨ys, hys, heq⟩ := map_eq_ok_iff.mp hclose
      obtain ⟨rfl, rfl⟩ := Prod.mk.inj heq
      exact ⟨⟨slot, hslot, hy⟩, slots, hslots, hys⟩
  · rintro ⟨⟨slot, hslot, hy⟩, slots, hslots, hys⟩
    refine ⟨(slot, slots), ⟨hslot, hslots⟩, ?_⟩
    dsimp only [close]
    rw [hy, hys]
    rfl

end Lists

/-- A record is read from the list of its fields, or from an object of them. -/
theorem readRecord_iff {fields : Fields} (hnames : fields.names.Nodup) (strict : Bool) (title : String) (v : Json)
    {x : fields.Carrier}
    (hitems : ∀ expected items, fields.readList .value expected .closed 0 (Draft.ofItems items) = .ok (x, []) ↔
      fields.DenotesItems items x)
    (hmembers : ∀ members, (∃ slots, fields.Holds members slots ∧ fields.close slots = .ok x) ↔
      fields.DenotesMembers members x) :
    fields.readRecord .value title (if strict then some fields.names else none) (Draft.ofValue v) = .ok x ↔
      (∃ items, v = .array items ∧ fields.DenotesItems items x) ∨
        ∃ members, v = .object members ∧ fields.Admits strict members ∧ fields.DenotesMembers members x := by
  rw [readRecord.eq_def]
  cases v with
  | array items =>
    simp only [Draft.ofValue, Json.array.injEq, exists_eq_left', reduceCtorEq, false_and, exists_false, or_false]
    rw [← hitems (fields.lengthText title)]
    cases hread : fields.readList .value (fields.lengthText title) .closed 0 (Draft.ofItems items) with
    | error fault => simp
    | ok read =>
      obtain ⟨y, left⟩ := read
      cases left with
      | nil => simp [surplus, unbroken, Ending.whenFull]
      | cons d left => simp [surplus]
  | object members =>
    simp only [Draft.ofValue, reduceCtorEq, false_and, exists_false, false_or, Json.object.injEq, exists_eq_left']
    have hnone : fields.Admits strict [] := ⟨fun _ _ => Nat.zero_le _, fun _ => List.forall_mem_nil _⟩
    have hread := readMembers_iff hnames strict members hnone fields.holds_noSlots
    rw [← hmembers members]
    split
    · rename_i fault hfault
      refine ⟨nofun, fun ⟨hadmits, slots, hheld, _⟩ => ?_⟩
      cases hfault.symm.trans ((hread slots).mpr ⟨hadmits, hheld⟩)
    · rename_i slots hslots
      obtain ⟨hadmits, hheld⟩ := (hread slots).mp hslots
      refine ⟨fun h => ⟨hadmits, slots, hheld, h⟩, fun ⟨_, slots', hheld', hclose⟩ => ?_⟩
      exact hheld.unique hheld' ▸ hclose
  | _ =>
    refine ⟨fun h => absurd h Draft.mismatch_ne_ok, ?_⟩
    rintro (⟨items, h, -⟩ | ⟨members, h, -⟩) <;> cases h

end Fields

/-- A choice is read from a name or from an object with one member. -/
theorem Shape.read_oneOf_iff {vs : Variants} (hnames : vs.names.Nodup) (v : Json) {x : vs.Carrier}
    (hpayload : ∀ name held, vs.readPayload .value name (Draft.ofValue held) = some (.ok x) ↔
      vs.Denotes (.object [(name, held)]) x) :
    (Shape.oneOf vs).read .value (Draft.ofValue v) = .ok x ↔ vs.Denotes v x := by
  constructor
  · intro h
    rcases Shape.read_oneOf_eq_ok h with ⟨s, hs⟩ | ⟨name, d, ending, hd, hread, -⟩
    · cases v with
      | string name =>
        rw [Draft.ofValue, Shape.read_oneOf_name] at h
        cases hname : vs.readName name with
        | none => rw [hname] at h; cases h
        | some read =>
          rw [hname] at h
          exact (Variants.readName_iff hnames).mp (hname.trans (congrArg some h))
      | _ => cases hs
    · cases v with
      | object members =>
        cases members with
        | nil => cases hd
        | cons member rest =>
          cases rest with
          | nil =>
            obtain ⟨hmembers, -⟩ := Draft.object.inj hd
            obtain ⟨hname, hheld⟩ := Prod.mk.inj (List.cons.inj hmembers).1
            obtain rfl := Except.ok.inj hname
            exact (hpayload _ _).mp (hheld ▸ hread)
          | cons => cases hd
      | _ => cases hd
  · intro h
    obtain ⟨name, -, rfl | ⟨held, rfl⟩⟩ := vs.tagged h
    · rw [Draft.ofValue, Shape.read_oneOf_name, (Variants.readName_iff hnames).mpr h]
      rfl
    · exact Shape.read_oneOf_field ((hpayload name held).mpr h)

/-- What a number of a width stands for is the whole number it is read from. -/
theorem Width.toInt_of_ofInt? : (w : Width) → {n : Int} → {x : w.Carrier} → w.ofInt? n = some x → w.toInt x = n
  | .i32, n, x, h => by
    obtain ⟨⟨hlow, hhigh⟩, h⟩ := Option.ite_none_right_eq_some.mp h
    obtain rfl := Option.some.inj h
    exact Int32.toInt_ofInt_of_le hlow hhigh
  | .u32, n, x, h => by
    obtain ⟨⟨hlow, hhigh⟩, h⟩ := Option.ite_none_right_eq_some.mp h
    have hsize : n.toNat < UInt32.size := (Int.toNat_lt hlow).mpr hhigh
    obtain rfl := Option.some.inj h
    exact (congrArg Int.ofNat (UInt32.toNat_ofNat_of_lt' hsize)).trans (Int.toNat_of_nonneg hlow)
  | .i64, n, x, h => by
    obtain ⟨⟨hlow, hhigh⟩, h⟩ := Option.ite_none_right_eq_some.mp h
    obtain rfl := Option.some.inj h
    exact Int64.toInt_ofInt_of_le hlow hhigh
  | .u64, n, x, h => by
    obtain ⟨⟨hlow, hhigh⟩, h⟩ := Option.ite_none_right_eq_some.mp h
    have hsize : n.toNat < UInt64.size := (Int.toNat_lt hlow).mpr hhigh
    obtain rfl := Option.some.inj h
    exact (congrArg Int.ofNat (UInt64.toNat_ofNat_of_lt' hsize)).trans (Int.toNat_of_nonneg hlow)

/-- Only a whole number is taken for one. -/
theorem Json.eq_int_of_ofValue {v : Json} {n : Int} (h : Draft.ofValue v = .number (.ok (.int n))) : v = .int n := by
  cases v with
  | number number => exact congrArg Json.number (Except.ok.inj (Draft.number.inj h))
  | _ => cases h

theorem Shape.read_unit_iff (v : Json) : Shape.unit.read .value (Draft.ofValue v) = .ok () ↔ v = .null := by
  rw [Shape.read.eq_def]
  cases v with
  | null => exact ⟨fun _ => rfl, fun _ => rfl⟩
  | _ => exact ⟨fun h => absurd h Draft.mismatch_ne_ok, nofun⟩

/-- An optional value is read as missing from null, and from nothing else. -/
theorem Shape.read_option_iff {value : Shape} (v : Json) {x : Option value.Carrier}
    (hvalue : ∀ y, value.read .value (Draft.ofValue v) = .ok y ↔ value.Denotes v y) :
    (Shape.option value).read .value (Draft.ofValue v) = .ok x ↔ (Shape.option value).Denotes v x := by
  by_cases hnull : v = .null
  · subst hnull
    rw [Shape.read.eq_def]
    cases x with
    | none => exact ⟨fun _ => rfl, fun _ => rfl⟩
    | some y => exact ⟨nofun, fun h => absurd rfl h.1⟩
  · have hread : (Shape.option value).read .value (Draft.ofValue v) = (value.read .value (Draft.ofValue v)).map some := by
      rw [Shape.read.eq_def]
      cases v with
      | null => exact absurd rfl hnull
      | _ => rfl
    rw [hread]
    refine map_eq_ok_iff.trans ?_
    cases x with
    | none => exact ⟨nofun, fun h => absurd h hnull⟩
    | some y =>
      constructor
      · rintro ⟨z, hz, heq⟩
        obtain rfl := Option.some.inj heq
        exact ⟨hnull, (hvalue z).mp hz⟩
      · exact fun h => ⟨y, (hvalue y).mpr h.2, rfl⟩

mutual

/-- A payload of a faithful shape is read from a value exactly if the value denotes it. -/
theorem Shape.read_iff : (s : Shape) → s.isFaithful = true → (v : Json) → (x : s.Carrier) →
    (s.read .value (Draft.ofValue v) = .ok x ↔ s.Denotes v x)
  | .unit, _, v, _ => Shape.read_unit_iff v
  | .bool, _, v, x => by
    rw [Shape.read.eq_def]
    cases v with
    | bool b => exact ⟨fun h => congrArg Json.bool (Except.ok.inj h), fun h => congrArg Except.ok (Json.bool.inj h)⟩
    | _ => exact ⟨fun h => absurd h Draft.mismatch_ne_ok, nofun⟩
  | .int w, _, v, x => by
    constructor
    · intro h
      rw [Shape.read.eq_def] at h
      dsimp only at h
      split at h
      · rename_i n hdraft
        split at h
        · rename_i y hy
          obtain rfl := Except.ok.inj h
          exact (Json.eq_int_of_ofValue hdraft).trans (congrArg Json.int (w.toInt_of_ofInt? hy).symm)
        · cases h
      · exact absurd h Draft.mismatch_ne_ok
    · intro h
      rw [show v = .int (w.toInt x) from h]
      exact Shape.read_int .value (w.ofInt?_toInt x)
  | .text expected, _, v, x => by
    rw [Shape.read.eq_def]
    cases v with
    | string s => exact ⟨fun h => congrArg Json.string (Except.ok.inj h), fun h => congrArg Except.ok (Json.string.inj h)⟩
    | _ => exact ⟨fun h => absurd h Draft.mismatch_ne_ok, nofun⟩
  | .list item, h, v, xs => by
    rw [Shape.read.eq_def]
    cases v with
    | array items =>
      refine readItems_iff.trans ?_
      have hitem : (fun v y => item.read .value (Draft.ofValue v) = .ok y) = item.Denotes :=
        funext fun v => funext fun y => propext (item.read_iff h v y)
      rw [hitem]
      constructor
      · rintro ⟨ys, rfl, hys⟩
        exact ⟨items, rfl, hys⟩
      · rintro ⟨items', hitems, hys⟩
        obtain rfl := Json.array.inj hitems
        exact ⟨xs, rfl, hys⟩
    | _ =>
      refine ⟨fun h => absurd h Draft.mismatch_ne_ok, ?_⟩
      rintro ⟨items, hitems, -⟩
      cases hitems
  | .option value, h, v, x => by
    exact Shape.read_option_iff v fun y => value.read_iff (Bool.and_eq_true_iff.mp h).2 v y
  | .record title strict fields, h, v, x => by
    obtain ⟨hnames, hfields⟩ := Bool.and_eq_true_iff.mp h
    rw [Shape.read.eq_def]
    exact Fields.readRecord_iff (of_decide_eq_true hnames) strict title v
      (fun expected items => fields.readList_iff hfields expected 0 items x) fun members => fields.close_iff hfields members x
  | .oneOf vs, h, v, x => by
    obtain ⟨hnames, hvs⟩ := Bool.and_eq_true_iff.mp h
    exact Shape.read_oneOf_iff (of_decide_eq_true hnames) v
      fun name held => vs.readPayload_iff hvs (of_decide_eq_true hnames) name held x

/-- The items that a record denotes are those it is read from. -/
theorem Fields.readList_iff : (fields : Fields) → fields.isFaithful = true → (expected : String) → (n : Nat) →
    (items : List Json) → (x : fields.Carrier) →
    (fields.readList .value expected .closed n (Draft.ofItems items) = .ok (x, []) ↔ fields.DenotesItems items x)
  | .nil, _, expected, n, items, x => by
    rw [Fields.readList.eq_def]
    cases items with
    | nil => exact ⟨fun _ => rfl, fun _ => rfl⟩
    | cons v rest => exact ⟨nofun, nofun⟩
  | .cons name presence shape rest, h, expected, n, items, (x, xs) => by
    obtain ⟨hshape, hrest⟩ := Bool.and_eq_true_iff.mp h
    cases items with
    | nil =>
      have hlater := rest.readList_iff hrest expected (n + 1) [] xs
      have hfirst : presence.whenShort (.invalidLength n expected) = .ok x ↔ presence.Denotes none shape.Denotes none x :=
        Presence.whenShort_iff
      refine Iff.trans ?_ (and_congr hfirst hlater)
      exact Fields.readList_nil_iff
    | cons v items =>
      have hlater := rest.readList_iff hrest expected (n + 1) items xs
      have hfirst : (∃ y, presence.given y = x ∧ shape.read .value (Draft.ofValue v) = .ok y) ↔
          presence.Denotes none shape.Denotes (some v) x :=
        (exists_congr fun y => and_congr_right fun _ => shape.read_iff hshape v y).trans Presence.denotes_given.symm
      refine Iff.trans ?_ (and_congr hfirst hlater)
      exact Fields.readList_cons_iff

/-- The members that a record denotes are those it is read from. -/
theorem Fields.close_iff : (fields : Fields) → fields.isFaithful = true → (members : List (String × Json)) →
    (x : fields.Carrier) →
    ((∃ slots, fields.Holds members slots ∧ fields.close slots = .ok x) ↔ fields.DenotesMembers members x)
  | .nil, _, members, x => ⟨fun _ => trivial, fun _ => ⟨(), trivial, rfl⟩⟩
  | .cons name presence shape rest, h, members, (x, xs) => by
    obtain ⟨hshape, hrest⟩ := Bool.and_eq_true_iff.mp h
    have hlater := rest.close_iff hrest members xs
    have hdenotes : (fun v y => shape.read .value (Draft.ofValue v) = .ok y) = shape.Denotes :=
      funext fun v => funext fun y => propext (shape.read_iff hshape v y)
    have hfirst := (Presence.close_iff name (fun v => shape.read .value (Draft.ofValue v)) (x := x)).trans
      (iff_of_eq (congrArg (presence.Denotes shape.whenMissing · (members.lookup name) x) hdenotes))
    refine Iff.trans ?_ (and_congr hfirst hlater)
    exact Fields.close_cons_iff

/-- A payload is read as the variant that it denotes. -/
theorem Variants.readPayload_iff : (vs : Variants) → vs.isFaithful = true → vs.names.Nodup → (name : String) →
    (held : Json) → (x : vs.Carrier) →
    (vs.readPayload .value name (Draft.ofValue held) = some (.ok x) ↔ vs.Denotes (.object [(name, held)]) x)
  | .plain own rest, _, _, name, held, .inl () => by
    rw [Variants.readPayload_plain]
    refine (Variants.first_iff _).trans ((and_congr_right fun _ => Shape.read_unit_iff held).trans ?_)
    simp [Variants.Denotes, eq_comm]
  | .holding own shape rest, h, _, name, held, .inl x => by
    have hshape := (Bool.and_eq_true_iff.mp h).1
    rw [Variants.readPayload_held]
    refine (Variants.first_iff _).trans ((and_congr_right fun _ => shape.read_iff hshape held x).trans ?_)
    simp [Variants.Denotes, eq_comm]
  | .record own title fields rest, h, _, name, held, .inl x => by
    obtain ⟨hnames, hfields⟩ := Bool.and_eq_true_iff.mp (Bool.and_eq_true_iff.mp h).1
    rw [Variants.readPayload_fields]
    have hrecord := Fields.readRecord_iff (of_decide_eq_true hnames) false title held
      (fun expected items => fields.readList_iff hfields expected 0 items x) fun members => fields.close_iff hfields members x
    refine (Variants.first_iff _).trans ((and_congr_right fun _ => Variants.readFields_iff hrecord).trans ?_)
    simp [Variants.Denotes, eq_comm, and_assoc]
  | .plain own rest, h, hnames, name, held, .inr x => by
    obtain ⟨hown, hnames⟩ := List.nodup_cons.mp hnames
    rw [Variants.readPayload_plain]
    exact Variants.later_iff _ (rest.readPayload_iff h hnames name held x) fun h =>
      (ne_of_mem_of_not_mem (rest.mem_of_payload h) hown).symm
  | .holding own shape rest, h, hnames, name, held, .inr x => by
    obtain ⟨hown, hnames⟩ := List.nodup_cons.mp hnames
    have hrest := (Bool.and_eq_true_iff.mp h).2
    rw [Variants.readPayload_held]
    exact Variants.later_iff _ (rest.readPayload_iff hrest hnames name held x) fun h =>
      (ne_of_mem_of_not_mem (rest.mem_of_payload h) hown).symm
  | .record own title fields rest, h, hnames, name, held, .inr x => by
    obtain ⟨hown, hnames⟩ := List.nodup_cons.mp hnames
    have hrest := (Bool.and_eq_true_iff.mp h).2
    rw [Variants.readPayload_fields]
    exact Variants.later_iff _ (rest.readPayload_iff hrest hnames name held x) fun h =>
      (ne_of_mem_of_not_mem (rest.mem_of_payload h) hown).symm

end

end Switchboard
