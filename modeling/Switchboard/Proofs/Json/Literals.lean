import Mathlib
import Switchboard.Proofs.Json.RoundTrip

/-!
# Strings and whole numbers as they may stand in a text

A string may be written in many ways: `Chars` relates what stands between its quotes to the bytes that it stands for, byte by byte
and escape by escape. A text is read as a string exactly if that stands there (`scanString_eq_text_iff`). A whole number without a
sign is written in one way, by its digits, and read from nothing else: not from a fraction, an exponent or a minus, and not beyond
64 bits (`scanNumber_eq_whole`).
-/

namespace Switchboard
namespace Scan

/-! ## What a string is written with -/

/-- A hexadecimal digit, in letters of either case. -/
def HexDigit (b : UInt8) (n : Nat) : Prop :=
  n < 16 ∧ (b = byte (Nat.digitChar n) ∨ b = byte (Nat.digitChar n).toUpper)

/-- Four hexadecimal digits. -/
def HexUnit (a b c d : UInt8) (n : Nat) : Prop :=
  ∃ w x y z, (HexDigit a w ∧ HexDigit b x ∧ HexDigit c y ∧ HexDigit d z) ∧ n = w * 0x1000 + x * 0x100 + y * 0x10 + z

/-- The letters of the short escapes, and the bytes they stand for. -/
def shortEscapes : List (UInt8 × UInt8) := [
  (byte '"', 0x22), (byte '\\', 0x5c), (byte '/', 0x2f),
  (byte 'b', 0x08), (byte 'f', 0x0c), (byte 'n', 0x0a), (byte 'r', 0x0d), (byte 't', 0x09)]

/-- What may stand between the quotes of a string, and the bytes it stands for. -/
inductive Chars : Bytes → Bytes → Prop where
  | nil : Chars [] []
  /-- A byte that is no quote, no backslash and no control stands for itself. -/
  | plain {b : UInt8} {text bytes : Bytes} (hlow : 0x20 ≤ b) (hquote : b ≠ byte '"') (hback : b ≠ byte '\\')
      (rest : Chars text bytes) : Chars (b :: text) (b :: bytes)
  /-- A short escape. -/
  | short {e x : UInt8} {text bytes : Bytes} (he : (e, x) ∈ shortEscapes) (rest : Chars text bytes) :
      Chars (byte '\\' :: e :: text) (x :: bytes)
  /-- A character by its number, which is of no surrogate. -/
  | unit {a b c d : UInt8} {n : Nat} {text bytes : Bytes} (hn : HexUnit a b c d n) (hchar : n < 0xd800 ∨ 0xdfff < n)
      (rest : Chars text bytes) :
      Chars (byte '\\' :: byte 'u' :: a :: b :: c :: d :: text) (String.utf8EncodeChar (Char.ofNat n) ++ bytes)
  /-- A character by the numbers of its two surrogates. -/
  | pair {a b c d a' b' c' d' : UInt8} {n m : Nat} {text bytes : Bytes} (hn : HexUnit a b c d (0xd800 + n)) (hlead : n < 0x400)
      (hm : HexUnit a' b' c' d' (0xdc00 + m)) (htrail : m < 0x400) (rest : Chars text bytes) :
      Chars (byte '\\' :: byte 'u' :: a :: b :: c :: d :: byte '\\' :: byte 'u' :: a' :: b' :: c' :: d' :: text)
        (String.utf8EncodeChar (Char.ofNat (0x10000 + n * 0x400 + m)) ++ bytes)

/-! ## Strings -/

/-- Each of the sixteen values has its digits, of both cases. -/
theorem hexValue_of_digit : ∀ n < 16,
    hexValue (byte (Nat.digitChar n)) = some n ∧ hexValue (byte (Nat.digitChar n).toUpper) = some n := by
  decide

/-- A byte with a value is a digit of it. -/
theorem digit_of_hexValue : ∀ k < 256, ∀ n ∈ hexValue (UInt8.ofNat k),
    n < 16 ∧ (UInt8.ofNat k = byte (Nat.digitChar n) ∨ UInt8.ofNat k = byte (Nat.digitChar n).toUpper) := by
  decide +kernel

/-- So a byte has a value if it is the digit for it. -/
theorem hexValue_eq_some_iff {b : UInt8} {n : Nat} : hexValue b = some n ↔ HexDigit b n := by
  constructor
  · intro h
    have hb := digit_of_hexValue b.toNat b.toNat_lt n
    rw [UInt8.ofNat_toNat] at hb
    exact hb h
  · rintro ⟨hn, rfl | rfl⟩
    · exact (hexValue_of_digit n hn).1
    · exact (hexValue_of_digit n hn).2

/-- Four digits have that of the unit they spell. -/
theorem hexUnit_eq_some_iff {a b c d : UInt8} {n : Nat} : hexUnit a b c d = some n ↔ HexUnit a b c d n := by
  rw [HexUnit, hexUnit]
  simp only [← hexValue_eq_some_iff]
  constructor
  · intro h
    split at h
    · rename_i w x y z ha hb hc hd
      exact ⟨w, x, y, z, ⟨ha, hb, hc, hd⟩, by have := Option.some.inj h; omega⟩
    · cases h
  · rintro ⟨w, x, y, z, ⟨ha, hb, hc, hd⟩, rfl⟩
    rw [ha, hb, hc, hd]
    simp only [Option.some.injEq]
    omega

/-- A short escape stands for its byte. -/
theorem escapeByte?_of_mem {e x : UInt8} (h : (e, x) ∈ shortEscapes) : e ≠ byte 'u' ∧ escapeByte? e = some x := by
  simp only [shortEscapes, List.mem_cons, Prod.mk.injEq, List.not_mem_nil, or_false] at h
  rcases h with ⟨rfl, rfl⟩ | ⟨rfl, rfl⟩ | ⟨rfl, rfl⟩ | ⟨rfl, rfl⟩ | ⟨rfl, rfl⟩ | ⟨rfl, rfl⟩ | ⟨rfl, rfl⟩ | ⟨rfl, rfl⟩ <;> decide

/-- Nothing else stands for a byte. -/
theorem mem_of_escapeByte? {e x : UInt8} (h : escapeByte? e = some x) : (e, x) ∈ shortEscapes := by
  rw [escapeByte?] at h
  split_ifs at h with hself hb hf hn hr ht
  · obtain rfl := Option.some.inj h
    rcases hself with rfl | rfl | rfl <;> decide
  all_goals
    obtain rfl := Option.some.inj h
    subst e
    decide

/-- The text of a complete string is that of its bytes. -/
theorem finish_eq_ok_iff {fault : Option SyntaxFault} {done : ByteArray} {s : String} :
    finish fault done = .ok s ↔ fault = none ∧ done = s.toByteArray := by
  constructor
  · intro h
    rw [finish.eq_def] at h
    split at h
    · cases h
    · split at h
      · rename_i hutf8
        obtain rfl := Except.ok.inj h
        rw [String.fromUTF8?] at hutf8
        split at hutf8
        · obtain rfl := Option.some.inj hutf8
          exact ⟨rfl, rfl⟩
        · cases hutf8
      · cases h
  · rintro ⟨rfl, rfl⟩
    exact finish_toByteArray s

theorem isTrailing_iff {unit : Nat} : isTrailing unit = true ↔ 0xdc00 ≤ unit ∧ unit ≤ 0xdfff := by
  simp [isTrailing]

theorem isLeading_iff {unit : Nat} : isLeading unit = true ↔ 0xd800 ≤ unit ∧ unit ≤ 0xdbff := by
  simp [isLeading]

theorem push_append (done : ByteArray) (b : UInt8) (bytes : Bytes) :
    done.push b ++ bytes.toByteArray = done ++ (b :: bytes).toByteArray := by
  apply ByteArray.ext
  apply Array.toList_inj.mp
  simp

theorem append_char_append (done : ByteArray) (c : Char) (bytes : Bytes) :
    done ++ (String.singleton c).toUTF8 ++ bytes.toByteArray = done ++ (String.utf8EncodeChar c ++ bytes).toByteArray := by
  apply ByteArray.ext
  apply Array.toList_inj.mp
  simp [List.utf8Encode]

/-- What stands between the quotes is read up to the closing one. -/
theorem scanString_of_chars {text bytes : Bytes} (h : Chars text bytes) (done : ByteArray) (rest : Bytes) :
    scanString none done (text ++ byte '"' :: rest) = .text (finish none (done ++ bytes.toByteArray)) rest := by
  induction h generalizing done with
  | nil =>
    rw [List.nil_append, scanString.eq_def]
    simp
  | plain hlow hquote hback _ ih =>
    rw [List.cons_append, scanString.eq_def]
    simp only
    rw [if_neg hquote, if_neg hback, if_neg (UInt8.not_lt.mpr hlow), ih, push_append]
  | short he _ ih =>
    obtain ⟨hu, hescape⟩ := escapeByte?_of_mem he
    rw [List.cons_append, List.cons_append, scanString.eq_def]
    simp only
    rw [if_neg (by decide), if_pos trivial, if_neg hu, hescape]
    simp only
    rw [ih, push_append]
  | @unit a b c d n text bytes hn hchar _ ih =>
    simp only [List.cons_append]
    rw [scanString.eq_def]
    simp only
    rw [if_neg (by decide), if_pos trivial, if_pos trivial, hexUnit_eq_some_iff.mpr hn]
    simp only
    rw [if_neg (by rw [isTrailing_iff]; omega), if_neg (by rw [isLeading_iff]; omega), ih, append_char_append]
  | @pair a b c d a' b' c' d' n m text bytes hn hlead hm htrail _ ih =>
    have hpoint : (0xd800 + n - 0xd800) * 0x400 + (0xdc00 + m - 0xdc00) + 0x10000 = 0x10000 + n * 0x400 + m := by omega
    simp only [List.cons_append]
    rw [scanString.eq_def]
    simp only
    rw [if_neg (by decide), if_pos trivial, if_pos trivial, hexUnit_eq_some_iff.mpr hn]
    simp only
    rw [if_neg (by rw [isTrailing_iff]; omega), if_pos (by rw [isLeading_iff]; omega), if_pos ⟨trivial, trivial⟩,
      hexUnit_eq_some_iff.mpr hm]
    simp only
    rw [if_pos (by rw [isTrailing_iff]; omega), hpoint, ih, append_char_append]

/-- What is read as a string is what stands between two quotes. -/
theorem chars_of_scanString {fault : Option SyntaxFault} {done : ByteArray} {s rest : Bytes} {str : String}
    (h : scanString fault done s = .text (.ok str) rest) :
    fault = none ∧ ∃ text bytes, Chars text bytes ∧ s = text ++ byte '"' :: rest ∧
      done ++ bytes.toByteArray = str.toByteArray := by
  have hfault : ∀ {fault : Option SyntaxFault} {x : SyntaxFault}, (fault <|> some x) ≠ none := by
    intro fault x
    cases fault <;> nofun
  fun_induction scanString fault done s
  case case2 =>
    obtain ⟨hfinish, rfl⟩ := Scanned.text.inj h
    obtain ⟨rfl, rfl⟩ := finish_eq_ok_iff.mp hfinish
    exact ⟨rfl, [], [], .nil, rfl, by simp⟩
  case case5 ih | case8 ih | case11 ih | case13 ih => exact absurd (ih h).1 hfault
  case case10 a b c d n hn htrailing hleading _ _ hpair a' b' c' d' after m hm htrailing' point _ ih =>
    obtain ⟨rfl, text, bytes, hchars, rfl, hbytes⟩ := ih h
    obtain ⟨rfl, rfl⟩ := hpair
    obtain ⟨hn0, hn1⟩ := isLeading_iff.mp hleading
    obtain ⟨hm0, hm1⟩ := isTrailing_iff.mp htrailing'
    obtain ⟨n, rfl⟩ := Nat.exists_eq_add_of_le hn0
    obtain ⟨m, rfl⟩ := Nat.exists_eq_add_of_le hm0
    have hpoint : point = 0x10000 + n * 0x400 + m := by omega
    rw [append_char_append, hpoint] at hbytes
    exact ⟨rfl, _, _, .pair (hexUnit_eq_some_iff.mp hn) (by omega) (hexUnit_eq_some_iff.mp hm) (by omega) hchars, rfl, hbytes⟩
  case case14 hn htrailing hleading _ ih =>
    obtain ⟨rfl, text, bytes, hchars, rfl, hbytes⟩ := ih h
    rw [isTrailing_iff] at htrailing
    rw [isLeading_iff] at hleading
    rw [append_char_append] at hbytes
    exact ⟨rfl, _, _, .unit (hexUnit_eq_some_iff.mp hn) (by omega) hchars, rfl, hbytes⟩
  case case16 hescape _ ih =>
    obtain ⟨rfl, text, bytes, hchars, rfl, hbytes⟩ := ih h
    rw [push_append] at hbytes
    exact ⟨rfl, _, _, .short (mem_of_escapeByte? hescape) hchars, rfl, hbytes⟩
  case case19 hquote hback hlow ih =>
    obtain ⟨rfl, text, bytes, hchars, rfl, hbytes⟩ := ih h
    rw [push_append] at hbytes
    exact ⟨rfl, _, _, .plain (UInt8.not_lt.mp hlow) hquote hback hchars, rfl, hbytes⟩
  all_goals cases h

/-- A string is read exactly if it stands there, up to its closing quote. -/
theorem scanString_eq_text_iff {t rest : Bytes} {s : String} :
    scanString none .empty t = .text (.ok s) rest ↔ ∃ text, Chars text (bytesOf s) ∧ t = text ++ byte '"' :: rest := by
  have hsame : (bytesOf s).toByteArray = s.toByteArray := by
    rw [bytesOf, toList_byteArray]
    apply ByteArray.ext
    simp
  constructor
  · intro h
    obtain ⟨-, text, bytes, hchars, rfl, hbytes⟩ := chars_of_scanString h
    rw [ByteArray.empty_append, ← hsame] at hbytes
    exact ⟨text, List.toByteArray_inj.mp hbytes ▸ hchars, rfl⟩
  · rintro ⟨text, hchars, rfl⟩
    rw [scanString_of_chars hchars, ByteArray.empty_append, hsame, finish_toByteArray]

/-! ## Whole numbers -/

/-- A decimal digit is written as its value. -/
theorem digit_cases : ∀ k < 256, isDigit (UInt8.ofNat k) = true →
    digitValue (UInt8.ofNat k) < 10 ∧ (Nat.digitChar (digitValue (UInt8.ofNat k))).toNat.toUInt8 = UInt8.ofNat k := by
  decide +kernel

/-- The same for every byte. -/
theorem digitChar_digitValue {b : UInt8} (h : isDigit b = true) :
    digitValue b < 10 ∧ (Nat.digitChar (digitValue b)).toNat.toUInt8 = b := by
  have hb := digit_cases b.toNat b.toNat_lt
  rw [UInt8.ofNat_toNat] at hb
  exact hb h

/-- Digits without a leading zero, or a zero alone, are those of the number they stand for. -/
theorem bytesOf_repr_natOfDigits {b : UInt8} {digits : Bytes} (hb : isDigit b = true) (hd : ∀ d ∈ digits, isDigit d = true)
    (hzero : b = byte '0' → digits = []) : bytesOf (natOfDigits (b :: digits)).repr = b :: digits := by
  induction digits using List.reverseRecOn with
  | nil =>
    obtain ⟨hlt, hchar⟩ := digitChar_digitValue hb
    have hvalue : natOfDigits [b] = digitValue b := by simp [natOfDigits]
    rw [hvalue, bytesOf_repr, Nat.toDigits_of_lt_base hlt, List.map_singleton, hchar]
  | append_singleton digits d ih =>
    obtain ⟨hdigits, hlast⟩ := List.forall_mem_append.mp hd
    obtain ⟨hlt, hchar⟩ := digitChar_digitValue (hlast d (List.mem_singleton_self d))
    have hb0 : b ≠ byte '0' := fun h => List.append_ne_nil_of_right_ne_nil digits (List.cons_ne_nil d []) (hzero h)
    have hfront := ih hdigits fun h => absurd h hb0
    have hvalue : natOfDigits (b :: (digits ++ [d])) = natOfDigits (b :: digits) * 10 + digitValue d := by
      simp [natOfDigits]
    generalize natOfDigits (b :: digits) = front at hfront hvalue
    have hpos : 0 < front := by
      refine Nat.pos_of_ne_zero fun h => hb0 ?_
      rw [h, bytesOf_repr, Nat.toDigits_zero] at hfront
      exact (List.cons.inj hfront).1.symm
    have hdiv : (front * 10 + digitValue d) / 10 = front := by omega
    have hmod : (front * 10 + digitValue d) % 10 = digitValue d := by omega
    rw [bytesOf_repr] at hfront
    rw [hvalue, bytesOf_repr, Nat.toDigits_of_base_le (by decide) (by omega), hdiv, hmod, List.map_append, hfront,
      List.map_singleton, hchar, List.cons_append]

/-- Digits that are taken up whole are taken up as the number they stand for. -/
theorem absorb_eq_nil {digits : Bytes} {n : Nat} (hn : n < 0x10000000000000000) (h : (absorb n digits).2 = []) :
    (absorb n digits).1 = digits.foldl (fun n b => n * 10 + digitValue b) n ∧ (absorb n digits).1 < 0x10000000000000000 := by
  induction digits generalizing n with
  | nil => exact ⟨rfl, hn⟩
  | cons b digits ih =>
    rw [absorb] at h ⊢
    split at h
    · rename_i hlt
      rw [if_pos hlt]
      exact ih hlt h
    · cases h

/-- Only a literal without a sign, a fraction and an exponent is of a whole number that is not negative, and that number has 64
bits. -/
theorem number_eq_whole {l : Literal} {n : Nat} (h : l.number = .ok (.int n)) :
    l.negative = false ∧ l.fraction = none ∧ l.exponent = none ∧ natOfDigits l.whole = n ∧ n < 0x10000000000000000 := by
  rw [Literal.number] at h
  dsimp only at h
  split at h
  · rename_i hfraction hexponent
    by_cases hleft : (absorb 0 l.whole).2 ≠ []
    · rw [if_pos hleft] at h
      split at h <;> cases h
    · have hkept : (absorb 0 l.whole).2 = [] := not_not.mp hleft
      obtain ⟨hvalue, hlt⟩ := absorb_eq_nil (by decide) hkept
      rw [if_neg hleft] at h
      by_cases hsign : (!l.negative) = true
      · rw [if_pos hsign] at h
        obtain rfl : (absorb 0 l.whole).1 = n := Int.ofNat_inj.mp (Number.int.inj (Except.ok.inj h))
        exact ⟨by simpa using hsign, hfraction, hexponent, hvalue.symm, hlt⟩
      · -- behind a minus only zero would do, and that is no whole number
        rw [if_neg hsign] at h
        split at h
        · cases h
        · have hneg := Number.int.inj (Except.ok.inj h)
          omega
  · split at h <;> cases h

/-- What goes on with a fraction or an exponent is no whole number. -/
theorem scanExponent_ne_whole {l : Literal} {s rest : Bytes} {n : Nat} :
    scanExponent l s ≠ (.number (.ok (.int n)), rest) := by
  intro h
  rw [scanExponent.eq_def] at h
  dsimp only at h
  split at h
  · cases h
  · split at h
    · obtain ⟨-, -, hexponent, -⟩ := number_eq_whole (Draft.number.inj (Prod.mk.inj h).1)
      cases hexponent
    · cases h

/-- A whole number has nothing behind its digits. -/
theorem scanTail_eq_whole {l : Literal} {s rest : Bytes} {n : Nat} (h : scanTail l s = (.number (.ok (.int n)), rest)) :
    s = rest ∧ l.number = .ok (.int n) := by
  rw [scanTail.eq_def] at h
  split at h
  · obtain ⟨hnumber, rfl⟩ := Prod.mk.inj h
    exact ⟨rfl, Draft.number.inj hnumber⟩
  · split_ifs at h
    · -- a fraction
      have hfraction : ∀ {digits : Bytes}, Literal.number { l with fraction := some digits } ≠ .ok (.int n) := by
        intro digits h
        obtain ⟨-, hnone, -⟩ := number_eq_whole h
        cases hnone
      dsimp only at h
      split at h
      · cases h
      · cases h
      · exact absurd (Draft.number.inj (Prod.mk.inj h).1) hfraction
      · split_ifs at h
        · exact absurd h scanExponent_ne_whole
        · exact absurd (Draft.number.inj (Prod.mk.inj h).1) hfraction
    · exact absurd h scanExponent_ne_whole
    · obtain ⟨hnumber, rfl⟩ := Prod.mk.inj h
      exact ⟨rfl, Draft.number.inj hnumber⟩

/-- A whole number that is not negative is read from its digits, and has 64 bits. -/
theorem scanNumber_eq_whole {negative : Bool} {s rest : Bytes} {n : Nat}
    (h : scanNumber negative s = (.number (.ok (.int n)), rest)) :
    negative = false ∧ s = bytesOf n.repr ++ rest ∧ n < 0x10000000000000000 := by
  have hdigits : ∀ {b digits tail}, isDigit b = true → (∀ d ∈ digits, isDigit d = true) → (b = byte '0' → digits = []) →
      scanTail ⟨negative, b :: digits, none, none⟩ tail = (.number (.ok (.int n)), rest) →
      negative = false ∧ b :: (digits ++ tail) = bytesOf n.repr ++ rest ∧ n < 0x10000000000000000 := by
    intro b digits tail hb hd hzero h
    obtain ⟨rfl, hnumber⟩ := scanTail_eq_whole h
    obtain ⟨hsign, -, -, rfl, hlt⟩ := number_eq_whole hnumber
    exact ⟨hsign, by rw [bytesOf_repr_natOfDigits hb hd hzero, List.cons_append], hlt⟩
  rw [scanNumber.eq_def] at h
  split at h
  · cases h
  · rename_i b tail
    split_ifs at h with h0 hb
    · have hzero : isDigit b = true := h0 ▸ by decide
      split at h
      · split_ifs at h
        · cases h
        · exact hdigits hzero (List.forall_mem_nil _) (fun _ => rfl) h
      · exact hdigits hzero (List.forall_mem_nil _) (fun _ => rfl) h
    · rw [List.takeWhile_cons_of_pos hb, List.dropWhile_cons_of_pos hb] at h
      have hread := hdigits hb (fun d hd => List.mem_takeWhile_imp hd) (fun h => absurd h h0) h
      rwa [List.takeWhile_append_dropWhile] at hread
    · cases h

end Scan
end Switchboard
