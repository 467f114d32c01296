import Switchboard.Proofs.Json.Strings
import Switchboard.Json.Scan

/-!
# Whole numbers in a JSON text

A whole number is written by its digits. They are read back as the number (`natOfDigits_repr`), a leading zero stands alone
(`bytesOf_repr_cases`), and what ends a number in a list or an object does not go on with it (`EndsNumber`). So every
whole number of 64 bits is read back as it is (`scanScalar_int`).
-/

namespace Switchboard
namespace Scan

/-- What follows a number does not go on with it. -/
def EndsNumber (rest : Bytes) : Prop :=
  ∀ b ∈ rest.head?, isDigit b = false ∧ b ≠ byte '.' ∧ b ≠ byte 'e' ∧ b ≠ byte 'E'

/-- The digits of a number are those up to what ends it. -/
theorem takeWhile_isDigit {digits rest : Bytes} (hd : ∀ b ∈ digits, isDigit b = true) (hr : EndsNumber rest) :
    (digits ++ rest).takeWhile isDigit = digits ∧ (digits ++ rest).dropWhile isDigit = rest := by
  rw [List.takeWhile_append_of_pos hd, List.dropWhile_append_of_pos hd]
  cases rest with
  | nil => simp
  | cons b rest =>
    have hb := (hr b rfl).1
    simp [hb]

/-- A whole number ends where its digits end. -/
theorem scanTail_of_ends (l : Literal) {rest : Bytes} (hr : EndsNumber rest) : scanTail l rest = (.number l.number, rest) := by
  cases rest with
  | nil => rfl
  | cons b rest =>
    obtain ⟨-, hpoint, he, hE⟩ := hr b rfl
    simp [scanTail, hpoint, he, hE]

/-- A number is read from its digits, of which a leading zero is the only one. -/
theorem scanNumber_digits (negative : Bool) {b : UInt8} {digits rest : Bytes} (hb : isDigit b = true)
    (hd : ∀ b ∈ digits, isDigit b = true) (hzero : b = byte '0' → digits = []) (hr : EndsNumber rest) :
    scanNumber negative (b :: (digits ++ rest)) = (.number (Literal.number ⟨negative, b :: digits, none, none⟩), rest) := by
  by_cases h0 : b = byte '0'
  · rw [hzero h0, List.nil_append, scanNumber.eq_def]
    simp only [h0, if_true]
    cases rest with
    | nil => exact scanTail_of_ends _ hr
    | cons d rest =>
      simp only [(hr d rfl).1]
      exact scanTail_of_ends _ hr
  · have hall : ∀ b' ∈ b :: digits, isDigit b' = true := by
      intro b' hb'
      rcases List.mem_cons.mp hb' with rfl | hb'
      · exact hb
      · exact hd b' hb'
    obtain ⟨htake, hdrop⟩ := takeWhile_isDigit hall hr
    rw [scanNumber.eq_def]
    simp only
    rw [if_neg h0, if_pos hb, ← List.cons_append, htake, hdrop]
    exact scanTail_of_ends _ hr

/-- A number that fits is absorbed to its last digit. -/
theorem absorb_of_lt (digits : Bytes) (n : Nat)
    (h : digits.foldl (fun n b => n * 10 + digitValue b) n < 0x10000000000000000) :
    absorb n digits = (digits.foldl (fun n b => n * 10 + digitValue b) n, []) := by
  induction digits generalizing n with
  | nil => rfl
  | cons b digits ih =>
    have hle : ∀ (digits : Bytes) (n : Nat), n ≤ digits.foldl (fun n b => n * 10 + digitValue b) n := by
      intro digits
      induction digits with
      | nil => exact fun n => Nat.le_refl n
      | cons b digits ih => exact fun n => Nat.le_trans (Nat.le_add_right_of_le (Nat.le_mul_of_pos_right n (by decide))) (ih _)
    rw [List.foldl_cons] at h ⊢
    have hnext := Nat.lt_of_le_of_lt (hle digits _) h
    rw [absorb]
    simp only [if_pos hnext]
    exact ih _ h

/-- The whole number of digits without a sign. -/
theorem number_of_digits {digits : Bytes} (h : natOfDigits digits < 0x10000000000000000) :
    Literal.number ⟨false, digits, none, none⟩ = .ok (.int (natOfDigits digits)) := by
  have habsorb := absorb_of_lt digits 0 h
  simp [Literal.number, habsorb, natOfDigits]

/-- The whole number of digits behind a minus. -/
theorem number_of_negative_digits {digits : Bytes} (hpos : 0 < natOfDigits digits)
    (h : natOfDigits digits ≤ 0x8000000000000000) :
    Literal.number ⟨true, digits, none, none⟩ = .ok (.int (-natOfDigits digits)) := by
  have habsorb := absorb_of_lt digits 0 (Nat.lt_of_le_of_lt h (by decide))
  have hrange : ¬(natOfDigits digits = 0 ∨ 0x8000000000000000 < natOfDigits digits) := by omega
  rw [natOfDigits] at hrange
  simp only [Literal.number, habsorb, natOfDigits]
  simp only [ne_eq, not_true_eq_false, if_false, Bool.not_true, Bool.false_eq_true]
  rw [if_neg hrange]

/-- A digit of a number, as a byte. -/
theorem digit_of_mem_toDigits {n : Nat} {c : Char} (hc : c ∈ Nat.toDigits 10 n) :
    String.utf8EncodeChar c = [c.toNat.toUInt8] ∧ isDigit c.toNat.toUInt8 = true ∧
      digitValue c.toNat.toUInt8 = c.toNat - '0'.toNat := by
  have hdigit := Nat.isDigit_of_mem_toDigits (by decide) (by decide) hc
  simp only [Char.isDigit, Bool.and_eq_true, decide_eq_true_eq] at hdigit
  have hlow : 48 ≤ c.toNat := hdigit.1
  have hhigh : c.toNat ≤ 57 := hdigit.2
  have hbyte : c.toNat.toUInt8.toNat = c.toNat := by
    rw [Nat.toUInt8, UInt8.toNat_ofNat', Nat.mod_eq_of_lt (by omega)]
  refine ⟨?_, ?_, ?_⟩
  · rw [String.utf8EncodeChar, if_pos (show c.val.toNat ≤ 127 from Nat.le_trans hhigh (by decide))]
    rfl
  · simp only [isDigit, Bool.and_eq_true, decide_eq_true_eq, UInt8.le_iff_toNat_le, hbyte]
    exact ⟨hlow, hhigh⟩
  · rw [digitValue, hbyte]
    rfl

/-- The bytes of a number are those of its digits. -/
theorem bytesOf_repr (n : Nat) : bytesOf n.repr = (Nat.toDigits 10 n).map fun c => c.toNat.toUInt8 := by
  rw [bytesOf_eq_flatMap, Nat.toList_repr, List.map_eq_flatMap, List.flatMap_def, List.flatMap_def]
  exact congrArg List.flatten (List.map_congr_left fun c hc => (digit_of_mem_toDigits hc).1)

/-- The digits of a number are read as the number. -/
theorem natOfDigits_repr (n : Nat) : natOfDigits (bytesOf n.repr) = n := by
  have hfold : ∀ (cs : List Char) (sofar : Nat), (∀ c ∈ cs, digitValue c.toNat.toUInt8 = c.toNat - '0'.toNat) →
      (cs.map fun c => c.toNat.toUInt8).foldl (fun n b => n * 10 + digitValue b) sofar = Nat.ofDigitChars 10 cs sofar := by
    intro cs
    induction cs with
    | nil => exact fun _ _ => rfl
    | cons c cs ih =>
      intro sofar h
      rw [List.map_cons, List.foldl_cons, ih _ fun c' hc' => h c' (List.mem_cons_of_mem c hc'), h c List.mem_cons_self,
        Nat.mul_comm]
      rfl
  rw [bytesOf_repr, natOfDigits, hfold _ 0 fun c hc => (digit_of_mem_toDigits hc).2.2, Nat.ofDigitChars_toDigits]
  · decide
  · decide

/-- A positive number does not start with a zero. -/
theorem head_toDigits {n : Nat} (hn : 0 < n) : (Nat.toDigits 10 n).head? ≠ some '0' := by
  induction n using Nat.strongRecOn with
  | ind n ih =>
    by_cases hlt : n < 10
    · rw [Nat.toDigits_of_lt_base hlt]
      have hdigit : ∀ m < 10, 0 < m → Nat.digitChar m ≠ '0' := by decide
      simpa using hdigit n hlt hn
    · have hfront := ih (n / 10) (by omega) (by omega)
      obtain ⟨c, cs, hcs⟩ := List.exists_cons_of_ne_nil (Nat.toDigits_ne_nil (n := n / 10) (b := 10))
      rw [hcs] at hfront
      rw [Nat.toDigits_of_base_le (by decide) (by omega), hcs]
      exact hfront

/-- The digits of a number: a first one, and no others behind a zero. -/
theorem bytesOf_repr_cases (n : Nat) :
    ∃ b digits, bytesOf n.repr = b :: digits ∧ isDigit b = true ∧ (∀ b ∈ digits, isDigit b = true) ∧
      (b = byte '0' → digits = []) := by
  obtain ⟨c, cs, hcs⟩ := List.exists_cons_of_ne_nil (Nat.toDigits_ne_nil (n := n) (b := 10))
  have hdigit : ∀ c' ∈ c :: cs, isDigit c'.toNat.toUInt8 = true := by
    intro c' hc'
    rw [← hcs] at hc'
    exact (digit_of_mem_toDigits hc').2.1
  refine ⟨c.toNat.toUInt8, cs.map fun c => c.toNat.toUInt8, ?_, hdigit c List.mem_cons_self, ?_, ?_⟩
  · rw [bytesOf_repr, hcs, List.map_cons]
  · intro b hb
    obtain ⟨c', hc', rfl⟩ := List.mem_map.mp hb
    exact hdigit c' (List.mem_cons_of_mem c hc')
  · intro hzero
    rcases Nat.eq_zero_or_pos n with rfl | hn
    · rw [Nat.toDigits_zero] at hcs
      rw [← (List.cons.inj hcs).2, List.map_nil]
    · have hmem : c ∈ Nat.toDigits 10 n := hcs ▸ List.mem_cons_self
      have hvalue := (digit_of_mem_toDigits hmem).2.2
      have hc := Nat.isDigit_of_mem_toDigits (by decide) (by decide) hmem
      simp only [Char.isDigit, Bool.and_eq_true, decide_eq_true_eq] at hc
      have hlow : 48 ≤ c.toNat := hc.1
      rw [hzero] at hvalue
      have hsame : c.toNat = '0'.toNat := by
        have h0 : digitValue (byte '0') = 0 := by decide
        have h48 : '0'.toNat = 48 := rfl
        omega
      have hc0 : c = '0' := Char.toNat_inj.mp hsame
      exact absurd (by rw [hcs, hc0]; rfl) (head_toDigits hn)

/-- A byte that is no digit is none of a number's first ones. -/
theorem ne_of_isDigit {b x : UInt8} (hb : isDigit b = true) (hx : isDigit x = false) : b ≠ x := by
  rintro rfl
  rw [hb] at hx
  cases hx

/-- A number starts with a minus or a digit, and with nothing else. -/
theorem bytesOf_int_head (n : Int) : ∃ b bytes, bytesOf (toString n) = b :: bytes ∧
    ∀ x, x ≠ byte '-' → isDigit x = false → b ≠ x := by
  cases n with
  | ofNat m =>
    obtain ⟨b, digits, htext, hb, -, -⟩ := bytesOf_repr_cases m
    exact ⟨b, digits, htext, fun x _ hx => ne_of_isDigit hb hx⟩
  | negSucc m =>
    have hsign : bytesOf "-" = [byte '-'] := by cbv
    refine ⟨byte '-', bytesOf (m + 1).repr, ?_, fun x hx _ => hx.symm⟩
    rw [show toString (Int.negSucc m) = "-" ++ (m + 1).repr from rfl, bytesOf_append, hsign]
    rfl

/-- A whole number of 64 bits is read back. -/
theorem scanScalar_int {n : Int} (hlow : -0x8000000000000000 ≤ n) (hhigh : n < 0x10000000000000000) {rest : Bytes}
    (hr : EndsNumber rest) : scanScalar (bytesOf (toString n) ++ rest) = (.number (.ok (.int n)), rest) := by
  cases n with
  | ofNat m =>
    obtain ⟨b, digits, htext, hb, hd, hzero⟩ := bytesOf_repr_cases m
    have hm : natOfDigits (b :: digits) = m := htext ▸ natOfDigits_repr m
    have hvalue : Literal.number ⟨false, b :: digits, none, none⟩ = .ok (.int (Int.ofNat m)) := by
      have hsize : natOfDigits (b :: digits) < 0x10000000000000000 := by
        rw [hm]
        exact Int.ofNat_lt.mp hhigh
      rw [number_of_digits hsize, hm]
      rfl
    rw [show toString (Int.ofNat m) = m.repr from rfl, htext, List.cons_append, scanScalar]
    rw [if_neg (ne_of_isDigit hb (by decide)), if_neg (ne_of_isDigit hb (by decide)), if_neg (ne_of_isDigit hb (by decide)),
      if_neg (ne_of_isDigit hb (by decide)), if_pos hb, scanNumber_digits false hb hd hzero hr, hvalue]
  | negSucc m =>
    obtain ⟨b, digits, htext, hb, hd, hzero⟩ := bytesOf_repr_cases (m + 1)
    have hm : natOfDigits (b :: digits) = m + 1 := htext ▸ natOfDigits_repr (m + 1)
    have hvalue : Literal.number ⟨true, b :: digits, none, none⟩ = .ok (.int (Int.negSucc m)) := by
      rw [number_of_negative_digits (by omega) (by omega), hm]
      rfl
    have hminus : bytesOf (toString (Int.negSucc m)) = byte '-' :: (b :: digits) := by
      have hsign : bytesOf "-" = [byte '-'] := by cbv
      rw [show toString (Int.negSucc m) = "-" ++ (m + 1).repr from rfl, bytesOf_append, htext, hsign]
      rfl
    rw [hminus, List.cons_append, List.cons_append, scanScalar]
    simp only
    rw [if_neg (by decide), if_neg (by decide), if_neg (by decide), if_pos trivial, scanNumber_digits true hb hd hzero hr, hvalue]

end Scan

end Switchboard
