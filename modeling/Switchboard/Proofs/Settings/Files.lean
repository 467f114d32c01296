import Switchboard.Proofs.Json.FlatObjects
import Switchboard.Proofs.Parcel.Forms
import Switchboard.Settings.Basic

/-!
# Files of settings

Each setting has a name, by which a file may give it, and values of a type (`SettingName`). An object gives settings if each of
its members gives one, none of them twice (`GivenSettings.GivenBy`). Reading it goes member by member: a member is taken exactly if
it gives a setting that is not given yet (`put_eq_ok_iff`), and so an object is read exactly if it gives settings, and as those
(`read_object_iff`).
-/

namespace Switchboard

open Scan

/-- The settings by their names. -/
inductive SettingName where
  | serviceDir
  | waitTimeoutMs
  | logLevel
  | commandTimeoutMs
deriving DecidableEq, Repr

namespace SettingName

/-- The name of a setting in a file. -/
def text : SettingName → String
  | .serviceDir => "service_dir"
  | .waitTimeoutMs => "service_wait_timeout_ms"
  | .logLevel => "log_level"
  | .commandTimeoutMs => "session_command_timeout_ms"

/-- The values of a setting: texts, or whole numbers of 64 bits without a sign. -/
def Value : SettingName → Type
  | .serviceDir | .logLevel => String
  | .waitTimeoutMs | .commandTimeoutMs => UInt64

/-- A value as it stands in a file. -/
def flat : (name : SettingName) → name.Value → FlatValue
  | .serviceDir, s | .logLevel, s => .text s
  | .waitTimeoutMs, n | .commandTimeoutMs, n => .whole n

/-- The member of a file that gives a setting. -/
def member (name : SettingName) (x : name.Value) : FlatMember :=
  (name.text, name.flat x)

/-- Settings have different names. -/
theorem text_injective : Function.Injective text := by
  intro name other h
  cases name <;> cases other <;> first | rfl | exact absurd h (by decide)

/-- A value of a setting is told by what stands in the file. -/
theorem flat_injective (name : SettingName) : Function.Injective name.flat := by
  intro x y h
  cases name
  case serviceDir | logLevel => exact FlatValue.text.inj h
  case waitTimeoutMs | commandTimeoutMs => exact FlatValue.whole.inj h

end SettingName

/-- The value of a setting. -/
def Settings.value (s : Settings) : (name : SettingName) → name.Value
  | .serviceDir => s.serviceDir
  | .waitTimeoutMs => s.waitTimeoutMs
  | .logLevel => s.logLevel
  | .commandTimeoutMs => s.commandTimeoutMs

namespace GivenSettings

/-- The value of a setting, if it is given. -/
def value? (g : GivenSettings) : (name : SettingName) → Option name.Value
  | .serviceDir => g.serviceDir
  | .waitTimeoutMs => g.waitTimeoutMs
  | .logLevel => g.logLevel
  | .commandTimeoutMs => g.commandTimeoutMs

/-- The settings with one more given. -/
def give (g : GivenSettings) : (name : SettingName) → name.Value → GivenSettings
  | .serviceDir, x => { g with serviceDir := some x }
  | .waitTimeoutMs, x => { g with waitTimeoutMs := some x }
  | .logLevel, x => { g with logLevel := some x }
  | .commandTimeoutMs, x => { g with commandTimeoutMs := some x }

@[simp] theorem value?_none (name : SettingName) : none.value? name = Option.none := by
  cases name <;> rfl

@[simp] theorem value?_give (g : GivenSettings) (name : SettingName) (x : name.Value) : (g.give name x).value? name = some x := by
  cases name <;> rfl

/-- Giving one setting leaves the others. -/
theorem value?_give_of_ne (g : GivenSettings) {name other : SettingName} (x : name.Value) (h : other ≠ name) :
    (g.give name x).value? other = g.value? other := by
  cases name <;> cases other <;> first | rfl | exact absurd rfl h

/-- Given settings are told by their values. -/
theorem ext_value? {g g' : GivenSettings} (h : ∀ name, g.value? name = g'.value? name) : g = g' := by
  obtain ⟨a, b, c, d⟩ := g
  obtain ⟨a', b', c', d'⟩ := g'
  have ha : a = a' := h .serviceDir
  have hb : b = b' := h .waitTimeoutMs
  have hc : c = c' := h .logLevel
  have hd : d = d' := h .commandTimeoutMs
  rw [ha, hb, hc, hd]

/-- The settings are what the members give: each member gives a setting, none of them twice. -/
structure GivenBy (g : GivenSettings) (members : List (Except SyntaxFault String × Draft)) : Prop where
  known : ∀ m ∈ members, ∃ name x, m = (SettingName.member name x).draft
  once : (members.map Prod.fst).Nodup
  values : ∀ name x, g.value? name = some x ↔ (SettingName.member name x).draft ∈ members

/-! ## Reading a file -/

/-- The fields of a file. -/
def fields : Fields :=
  .cons SettingName.serviceDir.text .defaulted (.text "path string") <|
    .cons SettingName.waitTimeoutMs.text .defaulted (.int .u64) <|
      .cons SettingName.logLevel.text .defaulted (.text "a string") <|
        .cons SettingName.commandTimeoutMs.text .defaulted (.int .u64) .nil

/-- What has been read so far, as slots. -/
def slots (g : GivenSettings) : fields.Slots :=
  (g.serviceDir, g.waitTimeoutMs, g.logLevel, g.commandTimeoutMs, ())

end GivenSettings

/-- A text is read from a string, and from nothing else. -/
theorem Shape.read_text_iff {origin : Origin} {expected : String} {d : Draft} {s : String} :
    (Shape.text expected).read origin d = .ok s ↔ d = .string (.ok s) := by
  rw [Shape.read.eq_def]
  dsimp only
  split
  · rename_i other
    exact ⟨fun h => by rw [show other = s from Except.ok.inj h], fun h => congrArg Except.ok (Except.ok.inj (Draft.string.inj h))⟩
  · rename_i hne
    refine iff_of_false Draft.mismatch_ne_ok ?_
    rintro rfl
    exact hne s rfl

/-- A number of a width is read from a whole number in range, and from nothing else. -/
theorem Shape.read_int_iff {origin : Origin} {w : Width} {d : Draft} {n : w.Carrier} :
    (Shape.int w).read origin d = .ok n ↔ d = .number (.ok (.int (w.toInt n))) := by
  constructor
  · intro h
    rw [Shape.read.eq_def] at h
    dsimp only at h
    split at h
    · split at h
      · rename_i hn
        obtain rfl := Except.ok.inj h
        rw [w.toInt_of_ofInt? hn]
      · cases h
    · exact absurd h Draft.mismatch_ne_ok
  · rintro rfl
    rw [Shape.read.eq_def]
    dsimp only
    rw [w.ofInt?_toInt n]

namespace Fields

variable {origin : Origin} {own name : String} {p : Presence} {shape : Shape} {rest : Fields} {d : Draft}
  {slot : Option shape.Carrier} {slots : rest.Slots}

/-- A field is put into its own slot. -/
theorem put_self : (cons name p shape rest).put origin name d (slot, slots) =
    match slot with
    | some _ => some (.error (.duplicateField name))
    | none => some ((shape.read origin d).map fun x => (some x, slots)) :=
  (put_cons ..).trans (if_pos rfl)

/-- A field of another name is put among the others. -/
theorem put_other (hne : own ≠ name) {r : Option (Except ParcelFault rest.Slots)} (h : rest.put origin name d slots = r) :
    (cons own p shape rest).put origin name d (slot, slots) = r.map (·.map (slot, ·)) :=
  (put_cons ..).trans ((if_neg hne).trans (congrArg _ h))

end Fields

namespace SettingName

/-- Reads the value of a setting. -/
def read : (name : SettingName) → Draft → Except ParcelFault name.Value
  | .serviceDir, d => (Shape.text "path string").read .text d
  | .waitTimeoutMs, d | .commandTimeoutMs, d => (Shape.int .u64).read .text d
  | .logLevel, d => (Shape.text "a string").read .text d

/-- A setting is read from its value in a file, and from nothing else. -/
theorem read_iff (name : SettingName) {d : Draft} {x : name.Value} : name.read d = .ok x ↔ d = (name.flat x).draft := by
  cases name
  case serviceDir | logLevel => exact Shape.read_text_iff
  case waitTimeoutMs | commandTimeoutMs => exact Shape.read_int_iff

end SettingName

namespace GivenSettings

/-- The member of a setting is put into its slot, unless the setting is given already. -/
theorem put_text (g : GivenSettings) (name : SettingName) (d : Draft) :
    fields.put .text name.text d g.slots =
      match g.value? name with
      | some _ => some (.error (.duplicateField name.text))
      | .none => some ((name.read d).map fun x => (g.give name x).slots) := by
  have hmap : ∀ {α β γ : Type} {r : Except ParcelFault α} {f : α → β} {g : β → γ}, (r.map f).map g = r.map (g ∘ f) := by
    intro α β γ r f g
    cases r <;> rfl
  obtain ⟨dir, wait, level, command⟩ := g
  cases name with
  | serviceDir =>
    refine Fields.put_self.trans ?_
    cases dir <;> rfl
  | waitTimeoutMs =>
    refine (Fields.put_other (by decide) Fields.put_self).trans ?_
    cases wait with
    | some => rfl
    | none => exact congrArg some hmap
  | logLevel =>
    refine (Fields.put_other (by decide) (Fields.put_other (by decide) Fields.put_self)).trans ?_
    cases level with
    | some => rfl
    | none => exact congrArg some ((congrArg _ hmap).trans hmap)
  | commandTimeoutMs =>
    refine (Fields.put_other (by decide) (Fields.put_other (by decide) (Fields.put_other (by decide) Fields.put_self))).trans ?_
    cases command with
    | some => rfl
    | none => exact congrArg some ((congrArg _ ((congrArg _ hmap).trans hmap)).trans hmap)

/-- A member of any other name is not put anywhere. -/
theorem put_unknown (g : GivenSettings) {text : String} (h : ∀ name : SettingName, text ≠ name.text) (d : Draft) :
    fields.put .text text d g.slots = .none := by
  refine Fields.put_of_not_mem g.slots fun hmem => ?_
  simp only [fields, Fields.names, List.mem_cons, List.not_mem_nil, or_false] at hmem
  rcases hmem with rfl | rfl | rfl | rfl
  · exact h .serviceDir rfl
  · exact h .waitTimeoutMs rfl
  · exact h .logLevel rfl
  · exact h .commandTimeoutMs rfl

/-- A member is taken exactly if it gives a setting that is not given yet. -/
theorem put_eq_ok_iff (g : GivenSettings) {text : String} {d : Draft} {slots' : fields.Slots} :
    fields.put .text text d g.slots = some (.ok slots') ↔
      ∃ name x, (.ok text, d) = (SettingName.member name x).draft ∧ g.value? name = .none ∧ (g.give name x).slots = slots' := by
  constructor
  · intro h
    by_cases hknown : ∃ name : SettingName, text = name.text
    · obtain ⟨name, rfl⟩ := hknown
      rw [put_text] at h
      split at h
      · cases h
      · rename_i hnew
        obtain ⟨x, hx, hslots⟩ := map_eq_ok_iff.mp (Option.some.inj h)
        exact ⟨name, x, by rw [(name.read_iff).mp hx]; rfl, hnew, hslots⟩
    · rw [put_unknown g (not_exists.mp hknown)] at h
      cases h
  · rintro ⟨name, x, hmember, hnew, rfl⟩
    obtain ⟨hname, rfl⟩ := Prod.mk.inj hmember
    obtain rfl := Except.ok.inj hname
    have hread : name.read (name.member x).2.draft = .ok x := name.read_iff.mpr rfl
    refine (put_text g name _).trans ?_
    rw [hnew, hread]
    rfl

/-- Without members nothing is given. -/
theorem givenBy_nil : none.GivenBy [] where
  known := List.forall_mem_nil _
  once := List.nodup_nil
  values name x := by simp

/-- Members give one thing. -/
theorem GivenBy.unique {g g' : GivenSettings} {members : List (Except SyntaxFault String × Draft)} (h : g.GivenBy members)
    (h' : g'.GivenBy members) : g = g' :=
  ext_value? fun name => Option.ext fun x => (h.values name x).trans (h'.values name x).symm

/-- A setting is not given yet exactly if no member has its name. -/
theorem GivenBy.value?_eq_none_iff {g : GivenSettings} {members : List (Except SyntaxFault String × Draft)}
    (h : g.GivenBy members) (name : SettingName) : g.value? name = .none ↔ .ok name.text ∉ members.map Prod.fst := by
  constructor
  · intro hnone hmem
    obtain ⟨m, hm, hname⟩ := List.mem_map.mp hmem
    obtain ⟨name', x, rfl⟩ := h.known m hm
    obtain rfl := SettingName.text_injective (Except.ok.inj hname)
    rw [(h.values _ x).mpr hm] at hnone
    cases hnone
  · intro hmem
    refine Option.eq_none_iff_forall_ne_some.mpr fun x hx => hmem ?_
    exact List.mem_map_of_mem ((h.values name x).mp hx)

/-- One more setting is given by one more member. -/
theorem GivenBy.snoc {g : GivenSettings} {members : List (Except SyntaxFault String × Draft)} (h : g.GivenBy members)
    {name : SettingName} (hnew : g.value? name = .none) (x : name.Value) :
    (g.give name x).GivenBy (members ++ [(name.member x).draft]) where
  known m hm := by
    rcases List.mem_append.mp hm with hm | hm
    · exact h.known m hm
    · exact ⟨name, x, List.mem_singleton.mp hm⟩
  once := by
    rw [List.map_append, List.map_singleton, List.nodup_append]
    refine ⟨h.once, List.nodup_singleton _, ?_⟩
    rintro text htext _ hmem rfl
    obtain rfl := List.mem_singleton.mp hmem
    exact (h.value?_eq_none_iff name).mp hnew htext
  values other y := by
    rw [List.mem_append, List.mem_singleton]
    by_cases heq : other = name
    · subst heq
      have hnone : (other.member y).draft ∉ members := fun hm =>
        (h.value?_eq_none_iff other).mp hnew (List.mem_map_of_mem hm)
      rw [value?_give, or_iff_right hnone, FlatMember.draft_injective.eq_iff, SettingName.member, SettingName.member,
        Prod.mk.injEq, other.flat_injective.eq_iff, Option.some.injEq]
      exact ⟨fun h => ⟨rfl, h.symm⟩, fun h => h.2.symm⟩
    · have hother : (other.member y).draft ≠ (name.member x).draft := fun hsame =>
        heq (SettingName.text_injective (Except.ok.inj (Prod.mk.inj hsame).1))
      rw [value?_give_of_ne g x heq, or_iff_left hother]
      exact h.values other y

/-- Members are read exactly if they give settings, to the closing brace. -/
theorem readMembers_iff (ending : Ending) (members : List (Except SyntaxFault String × Draft)) {g : GivenSettings}
    {seen : List (Except SyntaxFault String × Draft)} (hseen : g.GivenBy seen) (slots' : fields.Slots) :
    readMembers (fun name d slots => fields.put .text name d slots) (some fields.names) ending g.slots members = .ok slots' ↔
      ending = .closed ∧ ∃ g' : GivenSettings, g'.GivenBy (seen ++ members) ∧ g'.slots = slots' := by
  induction members generalizing g seen with
  | nil =>
    rw [readMembers, List.append_nil]
    cases ending with
    | closed =>
      constructor
      · intro h
        exact ⟨rfl, g, hseen, Except.ok.inj h⟩
      · rintro ⟨-, g', hg', rfl⟩
        rw [hseen.unique hg']
        rfl
    | cut c =>
      constructor
      · intro h
        cases h
      · rintro ⟨h, -⟩
        cases h
  | cons m rest ih =>
    obtain ⟨text, d⟩ := m
    constructor
    · intro h
      cases text with
      | error fault => cases h
      | ok text =>
        rw [readMembers.eq_def] at h
        dsimp only at h
        split at h
        · rename_i hput
          obtain ⟨name, x, hm, hnew, rfl⟩ := (put_eq_ok_iff g).mp hput
          rw [hm, List.append_cons]
          exact (ih (hseen.snoc hnew x)).mp h
        · cases h
        · cases h
        · cases ‹some fields.names = Option.none›
    · rintro ⟨hclosed, g', hg', rfl⟩
      obtain ⟨name, x, hm⟩ := hg'.known _ (List.mem_append_right seen List.mem_cons_self)
      have hnew : g.value? name = .none := by
        have honce := hg'.once
        rw [List.map_append, List.map_cons, hm, List.nodup_append] at honce
        exact (hseen.value?_eq_none_iff name).mpr fun hmem => honce.2.2 _ hmem _ List.mem_cons_self rfl
      rw [hm, List.append_cons] at hg'
      have hput : fields.put .text name.text (name.flat x).draft g.slots = some (.ok (g.give name x).slots) :=
        (put_eq_ok_iff g).mpr ⟨name, x, rfl, hnew, rfl⟩
      rw [hm, SettingName.member, FlatMember.draft, readMembers_cons hput]
      exact (ih (hseen.snoc hnew x)).mpr ⟨hclosed, g', hg', rfl⟩

theorem close_slots (g : GivenSettings) : fields.close g.slots = .ok (Parcel.toCarrier g) := rfl

/-- The fields are read from an object exactly if its members give settings, to the closing brace. -/
theorem readRecord_iff {members : List (Except SyntaxFault String × Draft)} {ending : Ending} (c : fields.Carrier) :
    fields.readRecord .text "struct Config" (some fields.names) (.object members ending) = .ok c ↔
      ending = .closed ∧ ∃ g : GivenSettings, g.GivenBy members ∧ Parcel.toCarrier g = c := by
  have hmembers := readMembers_iff ending members givenBy_nil
  rw [Fields.readRecord.eq_def]
  dsimp only
  constructor
  · intro h
    split at h
    · cases h
    · rename_i hread
      obtain ⟨hclosed, g, hg, rfl⟩ := (hmembers _).mp hread
      exact ⟨hclosed, g, hg, Except.ok.inj ((close_slots g).symm.trans h)⟩
  · rintro ⟨hclosed, g, hg, rfl⟩
    have hread := (hmembers g.slots).mpr ⟨hclosed, g, hg, rfl⟩
    rw [show fields.noSlots = none.slots from rfl, hread]
    exact close_slots g

/-- Settings are read from an object exactly if they are what its members give, to the closing brace. -/
theorem read_object_iff {members : List (Except SyntaxFault String × Draft)} {ending : Ending} (g : GivenSettings) :
    Parcel.read .text (.object members ending) = .ok g ↔ ending = .closed ∧ g.GivenBy members := by
  have hshape : (Parcel.shape GivenSettings).read .text (.object members ending) =
      fields.readRecord .text "struct Config" (some fields.names) (.object members ending) :=
    Shape.read.eq_def .text (.record "struct Config" true fields) _
  refine map_eq_ok_iff.trans ?_
  constructor
  · rintro ⟨c, hc, rfl⟩
    obtain ⟨hclosed, g, hg, rfl⟩ := (readRecord_iff c).mp (hshape.symm.trans hc)
    exact ⟨hclosed, hg⟩
  · rintro ⟨hclosed, hg⟩
    exact ⟨Parcel.toCarrier g, hshape.trans ((readRecord_iff _).mpr ⟨hclosed, g, hg, rfl⟩), rfl⟩

end GivenSettings

/-- A text is read whole exactly if its value is read, and nothing but blanks is behind it. -/
theorem Draft.readWhole_eq_ok_iff {α ε : Type} {read : Draft → Except ε α} {syntaxError : SyntaxFault → ε} {s : List UInt8}
    {x : α} :
    Draft.readWhole read syntaxError s = .ok x ↔ read (Draft.ofBytes s).1 = .ok x ∧ AllBlank (Draft.ofBytes s).2 := by
  rw [Draft.readWhole, ← skipBlank_eq_nil_iff]
  dsimp only
  cases read (Draft.ofBytes s).1 with
  | error e => simp
  | ok y =>
    dsimp only
    split <;> simp [*]

namespace GivenSettings

/-- Members that give settings, none of them twice, give some. -/
theorem exists_givenBy {members : List (Except SyntaxFault String × Draft)}
    (hknown : ∀ m ∈ members, ∃ name x, m = (SettingName.member name x).draft) (honce : (members.map Prod.fst).Nodup) :
    ∃ g : GivenSettings, g.GivenBy members := by
  induction members using List.reverseRecOn with
  | nil => exact ⟨none, givenBy_nil⟩
  | append_singleton members m ih =>
    rw [List.map_append, List.map_singleton, List.nodup_append] at honce
    obtain ⟨hmembers, hlast⟩ := List.forall_mem_append.mp hknown
    obtain ⟨g, hg⟩ := ih hmembers honce.1
    obtain ⟨name, x, rfl⟩ := hlast m (List.mem_singleton_self m)
    have hnew : g.value? name = .none :=
      (hg.value?_eq_none_iff name).mpr fun hmem => honce.2.2 _ hmem _ (List.mem_singleton_self _) rfl
    exact ⟨g.give name x, hg.snoc hnew x⟩

/-- Members that give settings have strings and whole numbers for values. -/
theorem GivenBy.exists_flat {g : GivenSettings} {members : List (Except SyntaxFault String × Draft)} (h : g.GivenBy members) :
    ∃ flat : List FlatMember, members = flat.map FlatMember.draft := by
  obtain ⟨flat, hflat⟩ : members ∈ Set.range (List.map FlatMember.draft) := by
    rw [Set.range_list_map]
    intro m hm
    obtain ⟨name, x, rfl⟩ := h.known m hm
    exact ⟨_, rfl⟩
  exact ⟨flat, hflat.symm⟩

end GivenSettings

/-- A file that holds an object gives what its members give, if nothing but blanks is behind it. -/
theorem GivenSettings.ofBytes_object_iff {content rest : Bytes} {members : List (Except SyntaxFault String × Draft)}
    {ending : Ending} (h : Draft.ofBytes content = (.object members ending, rest)) (g : GivenSettings) :
    Parcel.ofBytes content = .ok g ↔ (ending = .closed ∧ g.GivenBy members) ∧ AllBlank rest := by
  rw [Parcel.ofBytes, Draft.readWhole_eq_ok_iff, h, GivenSettings.read_object_iff]

/-- Of a file with an opening brace no settings are read but from an object. -/
theorem GivenSettings.exists_object {content : Bytes} {g : GivenSettings}
    (hbrace : ∃ front tail, AllBlank front ∧ content = front ++ byte '{' :: tail) (h : Parcel.ofBytes content = .ok g) :
    ∃ members ending rest, Draft.ofBytes content = (.object members ending, rest) := by
  obtain ⟨front, tail, hfront, rfl⟩ := hbrace
  have hread := (Draft.readWhole_eq_ok_iff.mp h).1
  rw [Draft.ofBytes_of_brace (skipBlank_append_cons hfront (by decide) tail)] at hread ⊢
  rcases scanMembers_fst (4 * (front ++ byte '{' :: tail).length + 3) 126 [] tail with habsent | ⟨members, ending, hobject⟩
  · rw [habsent] at hread
    obtain ⟨c, hc⟩ := map_eq_ok hread
    have hrecord := (Shape.read.eq_def .text (.record "struct Config" true GivenSettings.fields) .absent).symm.trans hc
    exact absurd ((Fields.readRecord.eq_def ..).symm.trans hrecord) Draft.mismatch_ne_ok
  · exact ⟨members, ending, _, Prod.ext hobject rfl⟩

end Switchboard
