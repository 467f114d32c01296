import Mathlib
import Switchboard.Proofs.Text.LowerCase

/-!
# Words in upper case

Few characters become a single character of ASCII in upper case: besides it and its small letter, these are the dotless i and the
long s. A character that becomes several becomes one beyond ASCII among them, or two letters of a ligature. So a word of ASCII
without small letters and without the letters of a ligature side by side is the upper case of a text exactly if each of its
characters is written in one of these ways (`upperText_eq_iff`).
-/

namespace Switchboard

/-- How a character may be written so that it is the one in upper case. -/
inductive Writes : Char → Char → Prop where
  | same (c : Char) : Writes c c
  | small (c : Char) : Writes c c.toLower
  | dotless : Writes 'I' '\u0131'
  | long : Writes 'S' '\u017f'

/-- The characters of ASCII that can be seen and are not behind its capitals. -/
def IsUpper (c : Char) : Prop :=
  33 ≤ c.toNat ∧ c.toNat < 97

instance (c : Char) : Decidable (IsUpper c) :=
  inferInstanceAs (Decidable (_ ∧ _))

/-- What becomes of the sharp s and of the ligatures has two of these letters side by side. -/
def ligatures : List (List Char) :=
  [['S', 'S'], ['F', 'F'], ['F', 'I'], ['F', 'L'], ['S', 'T']]

/-- A word of which no part is the upper case of a character that becomes several. -/
def IsPlainWord (word : List Char) : Prop :=
  (∀ c ∈ word, IsUpper c) ∧ ∀ pair ∈ ligatures, ¬pair <:+: word

-- Going through the word: the instance that is found by itself goes through all of Unicode.
instance (word : List Char) : Decidable (IsPlainWord word) :=
  @instDecidableAnd _ _ (List.decidableBAll IsUpper word) inferInstance

/-! ## The table -/

/-- Behind the small letters of ASCII the table of upper case has no characters below 128, and none but the dotless i and the long
s that become capitals of ASCII. -/
theorem upperRanges_eq :
    ∃ others, upperRanges = ⟨0x61, 0x7a, 1, -32⟩ :: others ∧ ∀ r ∈ others, 128 ≤ r.first ∧
      (97 ≤ r.first + r.offset ∨ r = ⟨0x131, 0x131, 1, -232⟩ ∨ r = ⟨0x17f, 0x17f, 1, -300⟩) := by
  refine ⟨upperRanges.tail, rfl, ?_⟩
  decide +kernel

/-- Of what a character becomes that becomes several, one is behind the capitals of ASCII, or two are those of a ligature. -/
theorem upperExpansions_spec : ∀ entry ∈ upperExpansions, 128 ≤ entry.1 ∧
    ((∃ point ∈ entry.2, 97 ≤ point ∧ point < 0xd800) ∨ ∃ pair ∈ ligatures, pair.map Char.toNat <:+: entry.2) := by
  decide +kernel

/-- No character of ASCII becomes more than one. -/
theorem upperExpansions_lookup_eq_none {c : Char} (h : c.toNat < 128) : upperCase.expansions.lookup c.toNat = none := by
  refine List.lookup_eq_none_iff.mpr fun entry hentry => ?_
  have hpoint := (upperExpansions_spec entry hentry).1
  exact bne_iff_ne.mpr fun heq => by omega

/-- A character of ASCII that is no small letter stays as it is. -/
theorem upperCase_onChar_upper {c : Char} (h : c.toNat < 97) : upperCase.onChar c = [c] := by
  obtain ⟨others, hranges, hothers⟩ := upperRanges_eq
  have hfind : upperCase.ranges.find? (·.contains c.toNat) = none := by
    refine List.find?_eq_none.mpr fun r hr hcontains => ?_
    simp only [CaseRange.contains, Bool.and_eq_true, decide_eq_true_eq] at hcontains
    rw [upperCase, hranges] at hr
    rcases List.mem_cons.mp hr with rfl | hr
    · have hfirst : 0x61 ≤ c.toNat := hcontains.1.1
      omega
    · have hfirst := (hothers r hr).1
      omega
  rw [CaseMapping.onChar, upperExpansions_lookup_eq_none (by omega)]
  dsimp only
  rw [hfind]

/-- A small letter of ASCII becomes its capital. -/
theorem upperCase_onChar_small {c : Char} (h : 97 ≤ c.toNat ∧ c.toNat ≤ 122) :
    upperCase.onChar c = [Char.ofNat (c.toNat - 32)] := by
  obtain ⟨others, hranges, -⟩ := upperRanges_eq
  have hfind : upperCase.ranges.find? (·.contains c.toNat) = some ⟨0x61, 0x7a, 1, -32⟩ := by
    have hfirst : CaseRange.contains ⟨0x61, 0x7a, 1, -32⟩ c.toNat = true := by
      simp [CaseRange.contains, h.1, h.2, Nat.mod_one]
    rw [upperCase, hranges]
    exact List.find?_cons_of_pos hfirst
  have himage : (c.toNat + (-32 : Int)).toNat = c.toNat - 32 := by omega
  rw [CaseMapping.onChar, upperExpansions_lookup_eq_none (by omega)]
  dsimp only
  rw [hfind]
  dsimp only
  rw [himage]

/-! ## One character -/

/-- However a character is written, it becomes the one it was written for. -/
theorem upperCase_onChar_of_writes {c d : Char} (h : Writes d c) (hd : IsUpper d) : upperCase.onChar c = [d] := by
  cases h with
  | same => exact upperCase_onChar_upper hd.2
  | small =>
    by_cases hcapital : IsCapital d
    · have hpoint : d.toLower.toNat = d.toNat + 32 := by
        have hvalid : (d.toNat + 32).isValidChar := .inl (by have := hd.2; omega)
        rw [toLower_of_capital hcapital, Char.toNat_ofNat, if_pos hvalid]
      obtain ⟨hfirst, hlast⟩ := hcapital
      rw [upperCase_onChar_small (by omega), hpoint, Nat.add_sub_cancel, Char.ofNat_toNat]
    · rw [toLower_of_not_capital hcapital]
      exact upperCase_onChar_upper hd.2
  | dotless => rfl
  | long => rfl

/-- A character that becomes a single one of ASCII is written in one of the ways of that one. -/
theorem writes_of_range {c d : Char} {r : CaseRange} (hr : r ∈ upperRanges) (hcontains : r.contains c.toNat = true)
    (hd : IsUpper d) (himage : d = Char.ofNat (c.toNat + r.offset).toNat) : Writes d c := by
  obtain ⟨others, hranges, hothers⟩ := upperRanges_eq
  simp only [CaseRange.contains, Bool.and_eq_true, decide_eq_true_eq] at hcontains
  obtain ⟨⟨hfirst, hlast⟩, -⟩ := hcontains
  have hpoint : d.toNat = (c.toNat + r.offset).toNat := by
    have hseen := hd.1
    rw [himage, Char.toNat_ofNat] at hseen ⊢
    split at hseen
    · exact if_pos ‹_›
    · omega
  obtain ⟨hlow, hhigh⟩ := hd
  rw [hranges] at hr
  rcases List.mem_cons.mp hr with rfl | hr
  · -- a small letter of ASCII
    have hfirst' : 97 ≤ c.toNat := hfirst
    have hlast' : c.toNat ≤ 122 := hlast
    have hcapital : d.toNat = c.toNat - 32 := by
      rw [hpoint]
      change (c.toNat + (-32 : Int)).toNat = c.toNat - 32
      omega
    have hsmall : d.toLower = c := by
      rw [toLower_of_capital ⟨by omega, by omega⟩, hcapital, Nat.sub_add_cancel (by omega), Char.ofNat_toNat]
    exact hsmall ▸ .small d
  · rcases (hothers r hr).2 with hover | rfl | rfl
    · omega
    · have hc : c = '\u0131' := Char.toNat_inj.mp (Nat.le_antisymm hlast hfirst)
      subst hc
      rw [himage]
      exact .dotless
    · have hc : c = '\u017f' := Char.toNat_inj.mp (Nat.le_antisymm hlast hfirst)
      subst hc
      rw [himage]
      exact .long

/-- Of what a character becomes that becomes several, no plain word has a part. -/
theorem not_infix_of_expansion {c : Char} {points : List Nat} {word : List Char} (hword : IsPlainWord word)
    (hlookup : upperCase.expansions.lookup c.toNat = some points) : ¬points.map Char.ofNat <:+: word := by
  intro hwithin
  obtain ⟨key, hentry⟩ : ∃ key, (key, points) ∈ upperExpansions := by
    obtain ⟨front, back, hsplit, -⟩ := List.lookup_eq_some_iff.mp hlookup
    exact ⟨c.toNat, by rw [show upperExpansions = _ from hsplit]; simp⟩
  rcases (upperExpansions_spec _ hentry).2 with ⟨point, hmem, hlow, hhigh⟩ | ⟨pair, hpair, hpart⟩
  · have hupper := hword.1 (Char.ofNat point) (hwithin.subset (List.mem_map_of_mem hmem))
    rw [IsUpper, Char.toNat_ofNat, if_pos (.inl hhigh)] at hupper
    omega
  · have hsame : (pair.map Char.toNat).map Char.ofNat = pair := by simp [Function.comp_def]
    have hmapped := hpart.map Char.ofNat
    rw [hsame] at hmapped
    exact hword.2 pair hpair (hmapped.trans hwithin)

/-- A character whose upper case is a part of a plain word becomes a single character, and is written in one of its ways. -/
theorem exists_writes {c : Char} {word : List Char} (hword : IsPlainWord word) (hpart : upperCase.onChar c <:+: word) :
    ∃ d, upperCase.onChar c = [d] ∧ Writes d c := by
  rw [CaseMapping.onChar] at hpart ⊢
  split at hpart
  · rename_i points hlookup
    exact absurd hpart (not_infix_of_expansion hword hlookup)
  · split at hpart
    · rename_i r hfind
      have hcontains := List.find?_some hfind
      have hupper := hword.1 _ (hpart.subset List.mem_cons_self)
      exact ⟨_, rfl, writes_of_range (List.mem_of_find?_eq_some hfind) hcontains hupper rfl⟩
    · exact ⟨c, rfl, .same c⟩

/-! ## Words -/

/-- A plain word is the upper case of a text exactly if the text writes it character by character. -/
theorem upperText_eq_iff {text word : String} (hword : IsPlainWord word.toList) :
    upperText text = word ↔ List.Forall₂ Writes word.toList text.toList := by
  rw [upperText, CaseMapping.onText, ← String.toList_inj, String.toList_ofList]
  generalize text.toList = cs
  generalize word.toList = ds at *
  constructor
  · intro h
    have hparts : ∀ c ∈ cs, ∃ d, upperCase.onChar c = [d] ∧ Writes d c := fun c hc =>
      exists_writes hword (h ▸ List.infix_flatMap_of_mem hc _)
    clear hword
    induction cs generalizing ds with
    | nil =>
      subst h
      exact .nil
    | cons c cs ih =>
      obtain ⟨⟨d, hd, hwrites⟩, hparts⟩ := List.forall_mem_cons.mp hparts
      rw [List.flatMap_cons, hd] at h
      subst h
      exact .cons hwrites (ih _ rfl hparts)
  · intro h
    have hupper := hword.1
    clear hword
    induction h with
    | nil => rfl
    | cons hwrites _ ih =>
      obtain ⟨hfirst, hothers⟩ := List.forall_mem_cons.mp hupper
      rw [List.flatMap_cons, upperCase_onChar_of_writes hwrites hfirst, ih hothers]
      rfl

end Switchboard
