import Mathlib
import Switchboard.Text.Integer

/-!
# Whole numbers and what is wrong with them

A text is one sign at most and what stands behind it (`Signed`). It is read as a number exactly if digits stand there, at least
one, and their number is within the limit of the sign (`readInt_eq_ok_iff`). Of any other text the first offence is reported
(`readInt_eq_error_iff`): a character that is no digit, if the digits before it are within the limit, and the limit if it is
passed before.
-/

namespace Switchboard

/-! ## Digits -/

/-- All characters are decimal digits of ASCII. -/
def AllDigits (cs : List Char) : Prop :=
  ∀ c ∈ cs, c.isDigit = true

/-- The number that decimal digits stand for. -/
def decimalValue (digits : List Char) : Nat :=
  Nat.ofDigitChars 10 digits 0

/-- A character that is no digit comes while the digits before it are within the limit. -/
def StopsAtCharacter (limit : Nat) (cs : List Char) : Prop :=
  ∃ digits c rest, cs = digits ++ c :: rest ∧ AllDigits digits ∧ c.isDigit = false ∧ decimalValue digits ≤ limit

/-- The digits in front are past the limit. -/
def PassesLimit (limit : Nat) (cs : List Char) : Prop :=
  ∃ digits rest, cs = digits ++ rest ∧ AllDigits digits ∧ limit < decimalValue digits

section Digits

variable {limit n m : Nat} {overflow : IntegerFault} {c : Char} {cs : List Char}

theorem allDigits_cons : AllDigits (c :: cs) ↔ c.isDigit = true ∧ AllDigits cs :=
  List.forall_mem_cons

/-- A digit is taken if the number stays within its limit. -/
theorem readDigits_cons (hc : c.isDigit = true) :
    readDigits limit overflow n (c :: cs) =
      if Nat.ofDigitChars 10 [c] n ≤ limit then readDigits limit overflow (Nat.ofDigitChars 10 [c] n) cs else .error overflow := by
  have hnext : n * 10 + (c.toNat - '0'.toNat) = Nat.ofDigitChars 10 [c] n := by
    rw [Nat.mul_comm]
    rfl
  rw [readDigits, if_pos hc]
  dsimp only
  rw [hnext]

/-- Any other character is an offence. -/
theorem readDigits_of_not_digit (hc : c.isDigit = false) : readDigits limit overflow n (c :: cs) = .error .invalidDigit := by
  rw [readDigits, if_neg (by simp [hc])]

/-- More digits do not make a number less. -/
theorem le_ofDigitChars (cs : List Char) (n : Nat) : n ≤ Nat.ofDigitChars 10 cs n := by
  induction cs generalizing n with
  | nil => exact Nat.le_refl n
  | cons c cs ih =>
    rw [Nat.ofDigitChars_cons]
    exact Nat.le_trans (by omega) (ih _)

/-- Digits are read exactly if they are digits and their number is within the limit. -/
theorem readDigits_eq_ok_iff (hn : n ≤ limit) :
    readDigits limit overflow n cs = .ok m ↔ AllDigits cs ∧ Nat.ofDigitChars 10 cs n = m ∧ m ≤ limit := by
  induction cs generalizing n with
  | nil =>
    constructor
    · intro h
      obtain rfl := Except.ok.inj h
      exact ⟨List.forall_mem_nil _, rfl, hn⟩
    · rintro ⟨-, rfl, -⟩
      rfl
  | cons c cs ih =>
    by_cases hc : c.isDigit = true
    · rw [readDigits_cons hc]
      by_cases hnext : Nat.ofDigitChars 10 [c] n ≤ limit
      · rw [if_pos hnext, ih hnext, allDigits_cons]
        simp only [hc, true_and]
        rfl
      · rw [if_neg hnext]
        refine ⟨nofun, ?_⟩
        rintro ⟨-, rfl, hm⟩
        exact absurd (Nat.le_trans (le_ofDigitChars cs _) hm) hnext
    · rw [readDigits_of_not_digit (Bool.eq_false_iff.mpr hc)]
      exact ⟨nofun, fun h => absurd (h.1 c List.mem_cons_self) hc⟩

/-- What is reported of digits that are not read. Behind a first digit within the limit it is what is reported of the others. -/
theorem readDigits_eq_error_iff {fault : IntegerFault} (hn : n ≤ limit) :
    readDigits limit overflow n cs = .error fault ↔
      (fault = .invalidDigit ∧ ∃ digits c rest, cs = digits ++ c :: rest ∧ AllDigits digits ∧ c.isDigit = false ∧
          Nat.ofDigitChars 10 digits n ≤ limit) ∨
        fault = overflow ∧ ∃ digits rest, cs = digits ++ rest ∧ AllDigits digits ∧ limit < Nat.ofDigitChars 10 digits n := by
  induction cs generalizing n with
  | nil =>
    refine ⟨nofun, ?_⟩
    rintro (⟨-, digits, c, rest, hcs, -⟩ | ⟨-, digits, rest, hcs, -, hlimit⟩)
    · exact absurd hcs (by simp)
    · obtain rfl := (List.append_eq_nil_iff.mp hcs.symm).1
      exact absurd hn (Nat.not_le.mpr hlimit)
  | cons c cs ih =>
    by_cases hc : c.isDigit = true
    · rw [readDigits_cons hc]
      by_cases hnext : Nat.ofDigitChars 10 [c] n ≤ limit
      · rw [if_pos hnext, ih hnext]
        refine or_congr (and_congr_right fun _ => ?_) (and_congr_right fun _ => ?_)
        · constructor
          · rintro ⟨digits, d, rest, rfl, hdigits, hd, hle⟩
            exact ⟨c :: digits, d, rest, rfl, allDigits_cons.mpr ⟨hc, hdigits⟩, hd, hle⟩
          · rintro ⟨digits, d, rest, hcs, hdigits, hd, hle⟩
            cases digits with
            | nil =>
              obtain ⟨rfl, -⟩ := List.cons.inj hcs
              exact absurd hc (by simp [hd])
            | cons c' digits =>
              obtain ⟨rfl, rfl⟩ := List.cons.inj hcs
              exact ⟨digits, d, rest, rfl, (allDigits_cons.mp hdigits).2, hd, hle⟩
        · constructor
          · rintro ⟨digits, rest, rfl, hdigits, hlt⟩
            exact ⟨c :: digits, rest, rfl, allDigits_cons.mpr ⟨hc, hdigits⟩, hlt⟩
          · rintro ⟨digits, rest, hcs, hdigits, hlt⟩
            cases digits with
            | nil => exact absurd hn (Nat.not_le.mpr hlt)
            | cons c' digits =>
              obtain ⟨rfl, rfl⟩ := List.cons.inj hcs
              exact ⟨digits, rest, rfl, (allDigits_cons.mp hdigits).2, hlt⟩
      · rw [if_neg hnext]
        constructor
        · intro h
          obtain rfl := Except.error.inj h
          exact .inr ⟨rfl, [c], cs, rfl, by simpa [AllDigits] using hc, Nat.not_le.mp hnext⟩
        · rintro (⟨-, digits, d, rest, hcs, hdigits, hd, hle⟩ | ⟨rfl, -⟩)
          · cases digits with
            | nil =>
              obtain ⟨rfl, -⟩ := List.cons.inj hcs
              exact absurd hc (by simp [hd])
            | cons c' digits =>
              obtain ⟨rfl, -⟩ := List.cons.inj hcs
              exact absurd (Nat.le_trans (le_ofDigitChars digits _) hle) hnext
          · rfl
    · have hc' := Bool.eq_false_iff.mpr hc
      rw [readDigits_of_not_digit hc']
      constructor
      · intro h
        obtain rfl := Except.error.inj h
        exact .inl ⟨rfl, [], c, cs, rfl, List.forall_mem_nil _, hc', hn⟩
      · rintro (⟨rfl, -⟩ | ⟨rfl, digits, rest, hcs, hdigits, hlt⟩)
        · rfl
        · cases digits with
          | nil => exact absurd hn (Nat.not_le.mpr hlt)
          | cons c' digits =>
            obtain ⟨rfl, -⟩ := List.cons.inj hcs
            exact absurd (hdigits c List.mem_cons_self) hc

end Digits

/-! ## Signs -/

/-- The sign of a number. -/
inductive Sign where
  | none
  | plus
  | minus
deriving DecidableEq, Repr

namespace Sign

/-- The number of a magnitude. -/
def apply : Sign → Nat → Int
  | .minus, n => -n
  | _, n => n

/-- The greatest magnitude of a sign: below zero there is one number more. -/
def limit (limit : Nat) : Sign → Nat
  | .minus => limit + 1
  | _ => limit

/-- What is wrong past the limit. -/
def overflow : Sign → IntegerFault
  | .minus => .tooSmall
  | _ => .tooLarge

end Sign

/-- A text is a sign and what stands behind it. Without a sign it does not begin with the character of one. -/
inductive Signed : List Char → Sign → List Char → Prop where
  | plus (body : List Char) : Signed ('+' :: body) .plus body
  | minus (body : List Char) : Signed ('-' :: body) .minus body
  | none {body : List Char} (hplus : body.head? ≠ some '+') (hminus : body.head? ≠ some '-') : Signed body .none body

/-- Every text has a sign, or none, and the rest. -/
theorem exists_signed (cs : List Char) : ∃ sign body, Signed cs sign body := by
  by_cases hplus : cs.head? = some '+'
  · obtain ⟨body, rfl⟩ := List.head?_eq_some_iff.mp hplus
    exact ⟨.plus, body, .plus body⟩
  · by_cases hminus : cs.head? = some '-'
    · obtain ⟨body, rfl⟩ := List.head?_eq_some_iff.mp hminus
      exact ⟨.minus, body, .minus body⟩
    · exact ⟨.none, cs, .none hplus hminus⟩

/-- There is one way only to part a text from its sign. -/
theorem Signed.unique {cs body body' : List Char} {sign sign' : Sign} (h : Signed cs sign body) (h' : Signed cs sign' body') :
    sign = sign' ∧ body = body' := by
  cases h with
  | plus =>
    cases h' with
    | plus => exact ⟨rfl, rfl⟩
    | none hplus _ => exact absurd rfl hplus
  | minus =>
    cases h' with
    | minus => exact ⟨rfl, rfl⟩
    | none _ hminus => exact absurd rfl hminus
  | none hplus hminus =>
    cases h' with
    | plus => exact absurd rfl hplus
    | minus => exact absurd rfl hminus
    | none => exact ⟨rfl, rfl⟩

section Numbers

variable {limit : Nat} {s : String} {sign : Sign} {body : List Char}

/-- A number is its digits behind its sign; a sign alone is an invalid digit, and so is not the empty text. -/
theorem readInt_eq (h : Signed s.toList sign body) :
    readInt limit s =
      if s.toList = [] then .error .empty
      else if body = [] then .error .invalidDigit
      else (readDigits (sign.limit limit) sign.overflow 0 body).map sign.apply := by
  have hminus : ∀ read : Except IntegerFault Nat,
      (read >>= fun n => pure (n : Int)).map (fun n => -n) = read.map (Sign.apply .minus) := by
    rintro (fault | n) <;> rfl
  rw [readInt]
  generalize s.toList = cs at h
  cases h with
  | plus => cases body <;> rfl
  | minus =>
    cases body with
    | nil => rfl
    | cons c rest => exact hminus _
  | none hplus hminus =>
    split
    · rfl
    · exact absurd rfl hplus
    · exact absurd rfl hminus
    · exact absurd rfl hplus
    · exact absurd rfl hminus
    · rename_i hcs _ _ _ _
      rw [if_neg hcs, if_neg hcs]
      rfl

/-- Behind no sign, or behind a sign and nothing else, stands nothing. -/
theorem Signed.eq_nil_iff {cs : List Char} (h : Signed cs sign body) : cs = [] ↔ sign = .none ∧ body = [] := by
  cases h <;> simp

/-- A number is read exactly if digits stand behind the sign, and their number is within its limit. -/
theorem readInt_eq_ok_iff (h : Signed s.toList sign body) {n : Int} :
    readInt limit s = .ok n ↔
      body ≠ [] ∧ AllDigits body ∧ decimalValue body ≤ sign.limit limit ∧ sign.apply (decimalValue body) = n := by
  rw [readInt_eq h]
  by_cases hbody : body = []
  · rw [if_pos hbody]
    refine iff_of_false (fun hread => ?_) fun hall => hall.1 hbody
    split at hread <;> cases hread
  · rw [if_neg fun hempty => hbody (h.eq_nil_iff.mp hempty).2, if_neg hbody]
    cases hread : readDigits (sign.limit limit) sign.overflow 0 body with
    | error fault =>
      refine iff_of_false nofun fun ⟨_, hall, hlimit, _⟩ => ?_
      cases hread.symm.trans ((readDigits_eq_ok_iff (Nat.zero_le _)).mpr ⟨hall, rfl, hlimit⟩)
    | ok m =>
      obtain ⟨hall, rfl, hlimit⟩ := (readDigits_eq_ok_iff (Nat.zero_le _)).mp hread
      exact ⟨fun hn => ⟨hbody, hall, hlimit, Except.ok.inj hn⟩, fun hn => congrArg Except.ok hn.2.2.2⟩

/-- What is first wrong with a text that is to be a number. -/
inductive FirstOffence (limit : Nat) (cs : List Char) : IntegerFault → Prop where
  | empty (h : cs = []) : FirstOffence limit cs .empty
  | loneSign {sign : Sign} (h : Signed cs sign []) (hsign : sign ≠ .none) : FirstOffence limit cs .invalidDigit
  | invalidDigit {sign : Sign} {body : List Char} (h : Signed cs sign body)
    (hstops : StopsAtCharacter (sign.limit limit) body) : FirstOffence limit cs .invalidDigit
  | tooLarge {sign : Sign} {body : List Char} (h : Signed cs sign body) (hsign : sign ≠ .minus)
    (hpasses : PassesLimit limit body) : FirstOffence limit cs .tooLarge
  | tooSmall {body : List Char} (h : Signed cs .minus body) (hpasses : PassesLimit (limit + 1) body) :
    FirstOffence limit cs .tooSmall

/-- What is first wrong with a text that is parted from its sign. -/
theorem firstOffence_iff {cs : List Char} {fault : IntegerFault} (h : Signed cs sign body) :
    FirstOffence limit cs fault ↔
      (cs = [] ∧ fault = .empty) ∨ (body = [] ∧ sign ≠ .none ∧ fault = .invalidDigit) ∨
        (fault = .invalidDigit ∧ StopsAtCharacter (sign.limit limit) body) ∨
          fault = sign.overflow ∧ PassesLimit (sign.limit limit) body := by
  constructor
  · intro hoffence
    cases hoffence with
    | empty hempty => exact .inl ⟨hempty, rfl⟩
    | loneSign h' hsign =>
      obtain ⟨rfl, rfl⟩ := h.unique h'
      exact .inr (.inl ⟨rfl, hsign, rfl⟩)
    | invalidDigit h' hstops =>
      obtain ⟨rfl, rfl⟩ := h.unique h'
      exact .inr (.inr (.inl ⟨rfl, hstops⟩))
    | tooLarge h' hsign hpasses =>
      obtain ⟨rfl, rfl⟩ := h.unique h'
      cases sign with
      | minus => exact absurd rfl hsign
      | none | plus => exact .inr (.inr (.inr ⟨rfl, hpasses⟩))
    | tooSmall h' hpasses =>
      obtain ⟨rfl, rfl⟩ := h.unique h'
      exact .inr (.inr (.inr ⟨rfl, hpasses⟩))
  · rintro (⟨hempty, rfl⟩ | ⟨rfl, hsign, rfl⟩ | ⟨rfl, hstops⟩ | ⟨rfl, hpasses⟩)
    · exact .empty hempty
    · exact .loneSign h hsign
    · exact .invalidDigit h hstops
    · cases sign with
      | minus => exact .tooSmall h hpasses
      | none | plus => exact .tooLarge h nofun hpasses

theorem not_stopsAtCharacter_nil : ¬StopsAtCharacter limit [] := by
  rintro ⟨digits, c, rest, hnil, -⟩
  simp at hnil

theorem not_passesLimit_nil : ¬PassesLimit limit [] := by
  rintro ⟨digits, rest, hnil, -, hlt⟩
  obtain rfl := (List.append_eq_nil_iff.mp hnil.symm).1
  exact Nat.not_lt_zero _ hlt

/-- What is reported of a text that is not read is what is first wrong with it. -/
theorem readInt_eq_error_iff {fault : IntegerFault} : readInt limit s = .error fault ↔ FirstOffence limit s.toList fault := by
  obtain ⟨sign, body, hsigned⟩ := exists_signed s.toList
  rw [readInt_eq hsigned, firstOffence_iff hsigned]
  by_cases hbody : body = []
  · subst hbody
    have hnil := hsigned.eq_nil_iff
    by_cases hempty : s.toList = []
    · simp [hempty, hnil.mp hempty, not_stopsAtCharacter_nil, not_passesLimit_nil, eq_comm]
    · have hsign : sign ≠ .none := fun hnone => hempty (hnil.mpr ⟨hnone, rfl⟩)
      simp [hempty, hsign, not_stopsAtCharacter_nil, not_passesLimit_nil, eq_comm]
  · have hempty : s.toList ≠ [] := fun hempty => hbody (hsigned.eq_nil_iff.mp hempty).2
    rw [if_neg hempty, if_neg hbody]
    simp only [hempty, hbody, false_and, false_or]
    refine Iff.trans ?_ (readDigits_eq_error_iff (Nat.zero_le _))
    cases readDigits (sign.limit limit) sign.overflow 0 body <;> simp [Except.map]

end Numbers

end Switchboard
