import Mathlib
import Switchboard.Proofs.Text.UpperCase
import Switchboard.Settings.Basic

/-!
# Filters as they are typed

A filter is typed as one of nineteen words (`filterWords`), in letters of any case; besides that an I may be a dotless one and an
S a long one. `filters_law` says that nothing else is read as a filter, though the words are compared in the upper case of all of
Unicode: nothing with a character that becomes several, nothing with white space.
-/

namespace Switchboard

/-- The words for filters, and what they stand for. -/
def filterWords : List (String × PriorityFilter) := [
  ("*", .showAll), ("S", .silent), ("SILENT", .silent),
  ("0", .priority .emergency), ("EMERGENCY", .priority .emergency),
  ("1", .priority .alert), ("ALERT", .priority .alert),
  ("2", .priority .critical), ("CRITICAL", .priority .critical),
  ("3", .priority .error), ("ERROR", .priority .error),
  ("4", .priority .warning), ("WARNING", .priority .warning),
  ("5", .priority .notice), ("NOTICE", .priority .notice),
  ("6", .priority .info), ("INFO", .priority .info),
  ("7", .priority .debug), ("DEBUG", .priority .debug)]

/-- The code points of white space. -/
def whiteSpace : List Nat :=
  [0x09, 0x0a, 0x0b, 0x0c, 0x0d, 0x20, 0x85, 0xa0, 0x1680, 0x2000, 0x2001, 0x2002, 0x2003, 0x2004, 0x2005, 0x2006, 0x2007, 0x2008,
    0x2009, 0x200a, 0x2028, 0x2029, 0x202f, 0x205f, 0x3000]

/-- No part of a word is the upper case of a character that becomes several. -/
theorem isPlainWord_of_filterWord : ∀ entry ∈ filterWords, IsPlainWord entry.1.toList := by
  decide +kernel

namespace Priority

/-- The words for a priority are its number and its name. -/
theorem mem_filterWords (p : Priority) :
    (toString p.number, .priority p) ∈ filterWords ∧ (p.name, .priority p) ∈ filterWords := by
  cases p <;> decide

end Priority

namespace PriorityFilter

/-- A filter is read from a text whose upper case is a word for it. -/
theorem ofText?_eq_some_iff_upper {text : String} {f : PriorityFilter} :
    ofText? text = some f ↔ (upperText text, f) ∈ filterWords := by
  rw [ofText?]
  generalize upperText text = word
  constructor
  · intro h
    split at h
    · rename_i hsilent
      obtain rfl := Option.some.inj h
      rcases hsilent with rfl | rfl <;> decide
    · split at h
      · rename_i hall
        obtain rfl := Option.some.inj h
        subst hall
        decide
      · obtain ⟨p, hp, rfl⟩ := Option.map_eq_some_iff.mp h
        have hword := List.find?_some hp
        simp only [Bool.or_eq_true, decide_eq_true_eq] at hword
        rcases hword with rfl | rfl
        · exact p.mem_filterWords.1
        · exact p.mem_filterWords.2
  · intro h
    simp only [filterWords, List.mem_cons, Prod.mk.injEq, List.not_mem_nil, or_false] at h
    rcases h with ⟨rfl, rfl⟩ | ⟨rfl, rfl⟩ | ⟨rfl, rfl⟩ | ⟨rfl, rfl⟩ | ⟨rfl, rfl⟩ | ⟨rfl, rfl⟩ | ⟨rfl, rfl⟩ | ⟨rfl, rfl⟩ |
      ⟨rfl, rfl⟩ | ⟨rfl, rfl⟩ | ⟨rfl, rfl⟩ | ⟨rfl, rfl⟩ | ⟨rfl, rfl⟩ | ⟨rfl, rfl⟩ | ⟨rfl, rfl⟩ | ⟨rfl, rfl⟩ | ⟨rfl, rfl⟩ |
      ⟨rfl, rfl⟩ | ⟨rfl, rfl⟩ <;> decide

/-- A filter is read from a text that writes a word for it. -/
theorem ofText?_eq_some_iff {text : String} {f : PriorityFilter} :
    ofText? text = some f ↔ ∃ word, (word, f) ∈ filterWords ∧ List.Forall₂ Writes word.toList text.toList := by
  rw [ofText?_eq_some_iff_upper]
  constructor
  · intro h
    exact ⟨_, h, (upperText_eq_iff (isPlainWord_of_filterWord _ h)).mp rfl⟩
  · rintro ⟨word, hword, hwrites⟩
    rwa [(upperText_eq_iff (isPlainWord_of_filterWord _ hword)).mpr hwrites]

/-- Each character of a filter is written for one of the word. -/
theorem exists_writes_of_ofText? {text : String} {f : PriorityFilter} (h : ofText? text = some f) {c : Char}
    (hc : c ∈ text.toList) : ∃ d, IsUpper d ∧ Writes d c := by
  obtain ⟨word, hword, hwrites⟩ := ofText?_eq_some_iff.mp h
  have hupper := (isPlainWord_of_filterWord _ hword).1
  generalize word.toList = ds at hwrites hupper
  generalize text.toList = cs at hc hwrites
  induction hwrites with
  | nil => cases hc
  | cons hfirst _ ih =>
    obtain ⟨hd, hds⟩ := List.forall_mem_cons.mp hupper
    rcases List.mem_cons.mp hc with rfl | hc
    · exact ⟨_, hd, hfirst⟩
    · exact ih hds hc

end PriorityFilter

/-- No character that can be seen is written as white space. -/
theorem not_whiteSpace_of_writes {c d : Char} (hd : IsUpper d) (h : Writes d c) : c.toNat ∉ whiteSpace := by
  have hseen : ∀ point, 33 ≤ point → point < 128 → point ∉ whiteSpace := by
    intro point hlow hhigh
    simp only [whiteSpace, List.mem_cons, List.not_mem_nil, or_false]
    omega
  obtain ⟨hlow, hhigh⟩ := hd
  cases h with
  | same => exact hseen _ hlow (by omega)
  | small =>
    by_cases hcapital : IsCapital d
    · have hvalid : (d.toNat + 32).isValidChar := .inl (by omega)
      rw [toLower_of_capital hcapital, Char.toNat_ofNat, if_pos hvalid]
      exact hseen _ (by omega) (by have := hcapital.2; omega)
    · rw [toLower_of_not_capital hcapital]
      exact hseen _ hlow (by omega)
  | dotless => decide
  | long => decide

/-! ## The law -/

/-- How filters are typed. -/
structure FiltersLaw : Prop where
  /-- A text is read as a filter exactly if it writes a word for it, character by character. -/
  accepted : ∀ text f, PriorityFilter.ofText? text = some f ↔
    ∃ word, (word, f) ∈ filterWords ∧ List.Forall₂ Writes word.toList text.toList
  /-- No text is that has a character which does not become a single one in upper case. -/
  several : ∀ (text : String) (c : Char), c ∈ text.toList → (upperCase.onChar c).length ≠ 1 → PriorityFilter.ofText? text = none
  /-- No text is that has white space, around it or in it. -/
  blank : ∀ (text : String) (c : Char), c ∈ text.toList → c.toNat ∈ whiteSpace → PriorityFilter.ofText? text = none
  /-- The level of the settings is that filter, -/
  level : ∀ (s : Settings) f, s.logFilter = .ok f ↔ PriorityFilter.ofText? s.logLevel = some f
  /-- and is refused, by its text, exactly if it writes no word. -/
  refused : ∀ (s : Settings), s.logFilter = .error (.badLogLevel s.logLevel) ↔
    ∀ entry ∈ filterWords, ¬List.Forall₂ Writes entry.1.toList s.logLevel.toList

/-- The law of filters as they are typed. -/
theorem filters_law : FiltersLaw := by
  constructor
  case accepted => exact fun _ _ => PriorityFilter.ofText?_eq_some_iff
  case several =>
    intro text c hc hseveral
    refine Option.eq_none_iff_forall_ne_some.mpr fun f hf => ?_
    obtain ⟨d, hd, hwrites⟩ := PriorityFilter.exists_writes_of_ofText? hf hc
    exact hseveral (congrArg List.length (upperCase_onChar_of_writes hwrites hd))
  case blank =>
    intro text c hc hblank
    refine Option.eq_none_iff_forall_ne_some.mpr fun f hf => ?_
    obtain ⟨d, hd, hwrites⟩ := PriorityFilter.exists_writes_of_ofText? hf hc
    exact not_whiteSpace_of_writes hd hwrites hblank
  case level =>
    intro s f
    rw [Settings.logFilter]
    cases PriorityFilter.ofText? s.logLevel <;> simp
  case refused =>
    intro s
    have hnone : s.logFilter = .error (.badLogLevel s.logLevel) ↔ PriorityFilter.ofText? s.logLevel = none := by
      rw [Settings.logFilter]
      cases PriorityFilter.ofText? s.logLevel <;> simp
    rw [hnone, Option.eq_none_iff_forall_ne_some]
    constructor
    · exact fun h entry hentry hwrites => h entry.2 (PriorityFilter.ofText?_eq_some_iff.mpr ⟨entry.1, hentry, hwrites⟩)
    · intro h f hf
      obtain ⟨word, hword, hwrites⟩ := PriorityFilter.ofText?_eq_some_iff.mp hf
      exact h _ hword hwrites

-- A long s and a dotless i are letters of a word; a sharp s is not, though it becomes one in upper case, twice.
example : PriorityFilter.ofText? "\u017f\u0131lent" = some .silent := by decide +kernel

example : PriorityFilter.ofText? "\u00df" = none := by decide +kernel

end Switchboard
