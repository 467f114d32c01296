import Mathlib
import Switchboard.Text.Case

/-!
# Words in lower case

Few characters become a letter of ASCII in lower case: the letter itself and its capital, and besides them the Kelvin sign, which
becomes a k, and the dotted capital I, which becomes an i and a dot. So a word of other letters is the lower case of a text
exactly if the text is that word but for capitals of ASCII (`lowerText_eq_iff`).
-/

namespace Switchboard

/-- The letters of ASCII that nothing but they themselves and their capitals become. -/
def IsPlainLetter (c : Char) : Prop :=
  97 ≤ c.toNat ∧ c.toNat ≤ 122 ∧ c ≠ 'i' ∧ c ≠ 'k'

instance (c : Char) : Decidable (IsPlainLetter c) :=
  inferInstanceAs (Decidable (_ ∧ _))

/-- The capitals of ASCII. -/
def IsCapital (c : Char) : Prop :=
  65 ≤ c.toNat ∧ c.toNat ≤ 90

instance (c : Char) : Decidable (IsCapital c) :=
  inferInstanceAs (Decidable (_ ∧ _))

/-- A capital letter is lowered by its distance to the small ones. -/
theorem toLower_of_capital {c : Char} (h : IsCapital c) : c.toLower = Char.ofNat (c.toNat + 32) := by
  obtain ⟨hfirst, hlast⟩ := h
  have hrange : c.val ≥ 'A'.val ∧ c.val ≤ 'Z'.val := ⟨UInt32.le_iff_toNat_le.mpr hfirst, UInt32.le_iff_toNat_le.mpr hlast⟩
  have hvalid : (c.toNat + 32).isValidChar := .inl (by omega)
  rw [← Char.toNat_inj, Char.toNat_ofNat, if_pos hvalid, Char.toLower, dif_pos hrange]
  change (c.val + ('a'.val - 'A'.val)).toNat = c.val.toNat + 32
  have hc : c.val.toNat ≤ 90 := hlast
  rw [UInt32.toNat_add, show ('a'.val - 'A'.val).toNat = 32 from rfl, Nat.mod_eq_of_lt (by omega)]

/-- Any other character stays. -/
theorem toLower_of_not_capital {c : Char} (h : ¬IsCapital c) : c.toLower = c := by
  refine dif_neg fun hrange => h ?_
  exact ⟨UInt32.le_iff_toNat_le.mp hrange.1, UInt32.le_iff_toNat_le.mp hrange.2⟩

/-- Behind the capitals of ASCII the table of lower case has no characters below 128, and none but the Kelvin sign that become
letters of ASCII. -/
theorem lowerRanges_eq :
    ∃ others, lowerRanges = ⟨0x41, 0x5a, 1, 32⟩ :: others ∧ ∀ r ∈ others, 128 ≤ r.first ∧
      (122 < r.first + r.offset ∨ r.last + r.offset < 97 ∨ r = ⟨0x212a, 0x212a, 1, -8383⟩) := by
  refine ⟨lowerRanges.tail, rfl, ?_⟩
  decide +kernel

/-- The dotted capital I becomes two characters, and neither is a plain letter. -/
theorem lowerCase_onChar_dotted {c : Char} (h : c.toNat = 0x130) :
    lowerCase.onChar c = [Char.ofNat 0x69, Char.ofNat 0x307] := by
  rw [CaseMapping.onChar, h]
  rfl

/-- A capital of ASCII becomes its small letter. -/
theorem lowerCase_onChar_capital {c : Char} (h : IsCapital c) : lowerCase.onChar c = [c.toLower] := by
  obtain ⟨others, hranges, -⟩ := lowerRanges_eq
  have hlookup : lowerCase.expansions.lookup c.toNat = none := by
    have hne : c.toNat ≠ 0x130 := fun hdotted => by simp [IsCapital, hdotted] at h
    rw [lowerCase, lowerExpansions, List.lookup_cons, beq_eq_false_iff_ne.mpr hne]
    rfl
  have hfind : lowerCase.ranges.find? (·.contains c.toNat) = some ⟨0x41, 0x5a, 1, 32⟩ := by
    have hfirst : CaseRange.contains ⟨0x41, 0x5a, 1, 32⟩ c.toNat = true := by
      simp [CaseRange.contains, h.1, h.2, Nat.mod_one]
    rw [lowerCase, hranges]
    exact List.find?_cons_of_pos hfirst
  have himage : (c.toNat + (32 : Int)).toNat = c.toNat + 32 := by omega
  rw [CaseMapping.onChar, hlookup, toLower_of_capital h]
  dsimp only
  rw [hfind]
  dsimp only
  rw [himage]

/-- Any other character stays as it is, or it is beyond ASCII and becomes what is no plain letter. -/
theorem lowerCase_onChar_other {c : Char} (h : ¬IsCapital c) (hdotted : c.toNat ≠ 0x130) :
    lowerCase.onChar c = [c] ∨ 128 ≤ c.toNat ∧ ∃ d, lowerCase.onChar c = [d] ∧ ¬IsPlainLetter d := by
  obtain ⟨others, hranges, hothers⟩ := lowerRanges_eq
  have hlookup : lowerCase.expansions.lookup c.toNat = none := by
    rw [lowerCase, lowerExpansions, List.lookup_cons, beq_eq_false_iff_ne.mpr hdotted]
    rfl
  have hfind : lowerCase.ranges.find? (·.contains c.toNat) = others.find? (·.contains c.toNat) := by
    have hfirst : ¬CaseRange.contains ⟨0x41, 0x5a, 1, 32⟩ c.toNat = true := by
      intro hcontains
      simp only [CaseRange.contains, Bool.and_eq_true, decide_eq_true_eq] at hcontains
      exact h hcontains.1
    rw [lowerCase, hranges]
    exact List.find?_cons_of_neg hfirst
  rw [CaseMapping.onChar, hlookup]
  dsimp only
  rw [hfind]
  cases hr : others.find? (·.contains c.toNat) with
  | none => exact .inl rfl
  | some r =>
    obtain ⟨hlow, himage⟩ := hothers r (List.mem_of_find?_eq_some hr)
    have hcontains := List.find?_some hr
    simp only [CaseRange.contains, Bool.and_eq_true, decide_eq_true_eq] at hcontains
    obtain ⟨⟨hle, hge⟩, -⟩ := hcontains
    refine .inr ⟨hlow.trans hle, _, rfl, fun hplain => ?_⟩
    obtain ⟨hfirst, hlast, -, hk⟩ := hplain
    have hpoint : (Char.ofNat (c.toNat + r.offset).toNat).toNat = (c.toNat + r.offset).toNat := by
      rw [Char.toNat_ofNat] at hfirst ⊢
      split at hfirst
      · exact if_pos ‹_›
      · omega
    rw [hpoint] at hfirst hlast
    rcases himage with hover | hunder | rfl
    · omega
    · omega
    · have hkelvin : (c.toNat + (-8383 : Int)).toNat = 107 := by
        have hle' : 8490 ≤ c.toNat := hle
        have hge' : c.toNat ≤ 8490 := hge
        omega
      rw [hkelvin] at hk
      exact hk rfl

/-- A character that becomes a plain letter, or is one in ASCII, becomes its lower case in ASCII. -/
theorem lowerCase_onChar {c : Char} (h : (∃ d ∈ lowerCase.onChar c, IsPlainLetter d) ∨ IsPlainLetter c.toLower) :
    lowerCase.onChar c = [c.toLower] := by
  by_cases hcapital : IsCapital c
  · exact lowerCase_onChar_capital hcapital
  rw [toLower_of_not_capital hcapital] at h ⊢
  by_cases hdotted : c.toNat = 0x130
  · rw [lowerCase_onChar_dotted hdotted] at h
    rcases h with ⟨d, hd, hplain⟩ | hplain
    · rcases List.mem_pair.mp hd with rfl | rfl
      · exact absurd hplain (by decide)
      · exact absurd hplain (by decide)
    · rw [IsPlainLetter, hdotted] at hplain
      omega
  rcases lowerCase_onChar_other hcapital hdotted with hsame | ⟨hbeyond, d, hbecomes, hplain⟩
  · exact hsame
  · rcases h with ⟨d', hd', hplain'⟩ | ⟨-, hletter, -⟩
    · rw [hbecomes] at hd'
      exact absurd (List.mem_singleton.mp hd' ▸ hplain') hplain
    · omega

/-- No character vanishes in lower case. -/
theorem lowerCase_onChar_ne_nil (c : Char) : lowerCase.onChar c ≠ [] := by
  rw [CaseMapping.onChar]
  split
  · rename_i points hlookup
    have hpoints : points ≠ [] := by
      rw [lowerCase, lowerExpansions, List.lookup_cons] at hlookup
      split at hlookup
      · cases hlookup
        simp
      · cases hlookup
    simpa using hpoints
  · split <;> simp

/-- A word of plain letters is the lower case of a text exactly if it is its lower case in ASCII. -/
theorem lowerText_eq_iff {text word : String} (hword : ∀ c ∈ word.toList, IsPlainLetter c) :
    lowerText text = word ↔ text.toList.map Char.toLower = word.toList := by
  rw [lowerText, CaseMapping.onText, ← String.toList_inj, String.toList_ofList]
  constructor
  · intro h
    have hone : ∀ c ∈ text.toList, lowerCase.onChar c = [c.toLower] := by
      intro c hc
      obtain ⟨d, hd⟩ := List.exists_mem_of_ne_nil _ (lowerCase_onChar_ne_nil c)
      exact lowerCase_onChar (.inl ⟨d, hd, hword d (h ▸ List.mem_flatMap.mpr ⟨c, hc, hd⟩)⟩)
    rw [← h, List.flatMap_congr hone, List.map_eq_flatMap]
  · intro h
    have hone : ∀ c ∈ text.toList, lowerCase.onChar c = [c.toLower] := fun c hc =>
      lowerCase_onChar (.inr (hword _ (h ▸ List.mem_map_of_mem hc)))
    rw [List.flatMap_congr hone, ← List.map_eq_flatMap, h]

end Switchboard
