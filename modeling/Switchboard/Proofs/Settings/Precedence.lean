import Switchboard.Proofs.Settings.Files
import Switchboard.CommandLine.Basic

/-!
# Where the settings come from

Of a file that holds an object `settings_law` says which members it may have and what it gives then, by the members that are read
of it as well as byte by byte. Which value of a setting counts is settled for each setting on its own, by what is given of it on
the command line and in the file.
-/

namespace Switchboard

open Scan

/-- A file gives nothing exactly if it cannot be read or is refused. -/
theorem GivenSettings.ofFile_eq_error_iff (path : String) (r : Except FileFault (List UInt8)) :
    (∃ e, GivenSettings.ofFile path r = .error e) ↔
      ∀ content, r = .ok content → ∀ g : GivenSettings, Parcel.ofBytes content ≠ .ok g := by
  rcases r with (e | e) | content
  · exact ⟨fun _ => nofun, fun _ => ⟨_, rfl⟩⟩
  · exact ⟨fun _ => nofun, fun _ => ⟨_, rfl⟩⟩
  · rw [GivenSettings.ofFile]
    constructor
    · rintro ⟨e, he⟩ content' hcontent g hg
      obtain rfl := Except.ok.inj hcontent
      rw [hg] at he
      cases he
    · intro h
      cases hread : (Parcel.ofBytes content : Except ParcelFault GivenSettings) with
      | error fault => exact ⟨_, rfl⟩
      | ok g => exact absurd hread (h content rfl g)

/-- The settings by what a file gives, if one is named. -/
theorem Settings.load_eq (contentOf : String → Except FileFault (List UInt8)) (file : Option String) (given : GivenSettings) :
    Settings.load contentOf file given =
      ((file.elim (.ok .none) fun path => GivenSettings.ofFile path (contentOf path)).map fun fromFile =>
        (Settings.default.override fromFile).override given) := by
  cases file <;> rfl

/-! ## The law -/

/-- Where the settings come from. -/
structure SettingsLaw : Prop where
  /-- There are none exactly if a file is named that cannot be read or is refused. -/
  missing : ∀ contentOf (flags : Flags), (∃ e, Settings.load contentOf flags.file flags.given = .error e) ↔
    ∃ path, flags.file = some path ∧
      ∀ content, contentOf path = .ok content → ∀ g : GivenSettings, Parcel.ofBytes content ≠ .ok g
  /-- A file that holds an object is accepted exactly if each member gives a setting, none of them twice, and nothing but blanks
  is behind the closing brace, -/
  accepted : ∀ content members ending rest, Draft.ofBytes content = (.object members ending, rest) →
    ((∃ g : GivenSettings, Parcel.ofBytes content = .ok g) ↔
      ending = .closed ∧ (∀ m ∈ members, ∃ name x, m = (SettingName.member name x).draft) ∧ (members.map Prod.fst).Nodup ∧
        AllBlank rest)
  /-- and gives what its members do. -/
  values : ∀ content members ending rest (g : GivenSettings), Draft.ofBytes content = (.object members ending, rest) →
    Parcel.ofBytes content = .ok g → ∀ name x, g.value? name = some x ↔ (SettingName.member name x).draft ∈ members
  /-- Byte by byte: a file with an opening brace is accepted exactly if it is an object of members that give settings, with blanks
  before and behind it at most. -/
  written : ∀ content (g : GivenSettings), (∃ front tail, AllBlank front ∧ content = front ++ byte '{' :: tail) →
    (Parcel.ofBytes content = .ok g ↔ ∃ front text rest members, content = front ++ (text ++ rest) ∧
      AllBlank front ∧ ObjectText members text ∧ AllBlank rest ∧ g.GivenBy (members.map FlatMember.draft))
  /-- Without a file each setting is the one that is given, or else the built-in one. -/
  builtIn : ∀ contentOf (flags : Flags), flags.file = none → ∃ s, Settings.load contentOf flags.file flags.given = .ok s ∧
    ∀ name, s.value name = (flags.given.value? name).getD (Settings.default.value name)
  /-- With a file it is the one that is given, or else the one of the file, or else the built-in one. -/
  settled : ∀ contentOf (flags : Flags) path content (g : GivenSettings), flags.file = some path → contentOf path = .ok content →
    Parcel.ofBytes content = .ok g → ∃ s, Settings.load contentOf flags.file flags.given = .ok s ∧
      ∀ name, s.value name = (flags.given.value? name).getD ((g.value? name).getD (Settings.default.value name))
  /-- What is given of one setting changes no other, and nothing about whether there are settings. -/
  apart : ∀ contentOf (flags : Flags) name x,
    (∀ e, Settings.load contentOf flags.file (flags.given.give name x) = .error e ↔
      Settings.load contentOf flags.file flags.given = .error e) ∧
    ∀ s s', Settings.load contentOf flags.file flags.given = .ok s →
      Settings.load contentOf flags.file (flags.given.give name x) = .ok s' →
      s'.value name = x ∧ ∀ other, other ≠ name → s'.value other = s.value other

/-- A value that is given replaces the one that was there. -/
theorem Settings.value_override (s : Settings) (given : GivenSettings) (name : SettingName) :
    (s.override given).value name = (given.value? name).getD (s.value name) := by
  cases name <;> rfl

/-- The law of where the settings come from. -/
theorem settings_law : SettingsLaw := by
  constructor
  case missing =>
    intro contentOf flags
    have herror : ∀ {α β ε : Type} {r : Except ε α} {f : α → β}, (∃ e, r.map f = .error e) ↔ ∃ e, r = .error e := by
      intro α β ε r f
      cases r <;> simp [Except.map]
    rw [Settings.load_eq, herror]
    cases flags.file with
    | none => simp
    | some path =>
      refine (GivenSettings.ofFile_eq_error_iff path (contentOf path)).trans ?_
      simp
  case accepted =>
    intro content members ending rest h
    constructor
    · rintro ⟨g, hg⟩
      obtain ⟨⟨hclosed, hgiven⟩, hrest⟩ := (GivenSettings.ofBytes_object_iff h g).mp hg
      exact ⟨hclosed, hgiven.known, hgiven.once, hrest⟩
    · rintro ⟨hclosed, hknown, honce, hrest⟩
      obtain ⟨g, hg⟩ := GivenSettings.exists_givenBy hknown honce
      exact ⟨g, (GivenSettings.ofBytes_object_iff h g).mpr ⟨⟨hclosed, hg⟩, hrest⟩⟩
  case values =>
    intro content members ending rest g h hg
    exact ((GivenSettings.ofBytes_object_iff h g).mp hg).1.2.values
  case written =>
    intro content g hbrace
    constructor
    · intro hg
      obtain ⟨members, ending, rest, h⟩ := GivenSettings.exists_object hbrace hg
      obtain ⟨⟨rfl, hgiven⟩, hrest⟩ := (GivenSettings.ofBytes_object_iff h g).mp hg
      obtain ⟨flat, rfl⟩ := hgiven.exists_flat
      obtain ⟨front, text, hfront, htext, hcontent⟩ := Draft.ofBytes_eq_object_iff.mp h
      exact ⟨front, text, rest, flat, hcontent, hfront, htext, hrest, hgiven⟩
    · rintro ⟨front, text, rest, flat, hcontent, hfront, htext, hrest, hgiven⟩
      have h := Draft.ofBytes_eq_object_iff.mpr ⟨front, text, hfront, htext, hcontent⟩
      exact (GivenSettings.ofBytes_object_iff h g).mpr ⟨⟨rfl, hgiven⟩, hrest⟩
  case builtIn =>
    intro contentOf flags hfile
    refine ⟨Settings.default.override flags.given, ?_, Settings.value_override _ flags.given⟩
    rw [hfile]
    rfl
  case settled =>
    intro contentOf flags path content g hfile hcontent hg
    refine ⟨(Settings.default.override g).override flags.given, ?_, fun name => ?_⟩
    · rw [hfile, Settings.load, hcontent, GivenSettings.ofFile, hg]
      rfl
    · rw [Settings.value_override, Settings.value_override]
  case apart =>
    intro contentOf flags name x
    rw [Settings.load_eq, Settings.load_eq]
    cases flags.file.elim (.ok .none) fun path => GivenSettings.ofFile path (contentOf path) with
    | error e => exact ⟨fun _ => Iff.rfl, nofun⟩
    | ok fromFile =>
      refine ⟨fun _ => ⟨nofun, nofun⟩, fun s s' hs hs' => ?_⟩
      obtain rfl := Except.ok.inj hs
      obtain rfl := Except.ok.inj hs'
      dsimp only
      refine ⟨?_, fun other hother => ?_⟩
      · rw [Settings.value_override, GivenSettings.value?_give, Option.getD_some]
      · rw [Settings.value_override _ (flags.given.give name x), Settings.value_override _ flags.given,
          GivenSettings.value?_give_of_ne flags.given x hother]

example : Settings.load (fun _ => .ok []) none { GivenSettings.none with logLevel := some "debug" } =
    .ok { Settings.default with logLevel := "debug" } := rfl

end Switchboard
