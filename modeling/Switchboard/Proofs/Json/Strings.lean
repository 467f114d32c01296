import Mathlib
import Switchboard.Json.Scan
import Switchboard.Json.Printer

/-!
# Strings in a JSON text

A text travels as its bytes (`bytesOf`). A string is written with some of its characters escaped, and every character is read
back as it is: one that stands for itself by its bytes, none of which is a quote, a backslash or a control
(`isPlain_of_mem_utf8EncodeChar`), and any other by its escape. So a written string is read back whole
(`scanString_written`).
-/

namespace Switchboard

/-! ## Bytes of texts -/

/-- The loop that lists the bytes, from any place on. -/
theorem toList_loop_eq (b : ByteArray) (i : Nat) (done : List UInt8) :
    ByteArray.toList.loop b i done = done.reverse ++ b.data.toList.drop i := by
  unfold ByteArray.toList.loop
  split
  · rename_i hi
    have hlt : i < b.data.toList.length := by rwa [Array.length_toList]
    have hget : b.get! i = b.data.toList[i] := by
      rw [Array.getElem_toList]
      exact getElem!_pos b.data i hi
    rw [toList_loop_eq b (i + 1), List.drop_eq_getElem_cons hlt, hget]
    simp
  · rename_i hi
    have hle : b.data.toList.length ≤ i := by rw [Array.length_toList]; exact Nat.not_lt.mp hi
    simp [List.drop_eq_nil_of_le hle]
termination_by b.size - i

/-- The bytes of an array in a list are its data. -/
theorem toList_byteArray (b : ByteArray) : b.toList = b.data.toList := by
  rw [ByteArray.toList, toList_loop_eq]
  simp

/-- The bytes of a text. -/
def bytesOf (s : String) : List UInt8 := s.toUTF8.toList

/-- Texts one after another have their bytes one after another. -/
theorem bytesOf_append (s t : String) : bytesOf (s ++ t) = bytesOf s ++ bytesOf t := by
  simp [bytesOf, toList_byteArray]

/-- The bytes of a text are those of its characters. -/
theorem bytesOf_ofList (cs : List Char) : bytesOf (String.ofList cs) = cs.flatMap String.utf8EncodeChar := by
  simp [bytesOf, toList_byteArray, List.utf8Encode]

/-- The same from the text itself. -/
theorem bytesOf_eq_flatMap (s : String) : bytesOf s = s.toList.flatMap String.utf8EncodeChar := by
  rw [← bytesOf_ofList, String.ofList_toList]

theorem bytesOf_singleton (c : Char) : bytesOf (String.singleton c) = String.utf8EncodeChar c := by
  simp [bytesOf_eq_flatMap]

/-- Their number is the size of the text. -/
theorem length_bytesOf (s : String) : (bytesOf s).length = s.utf8ByteSize := by
  rw [bytesOf, toList_byteArray, Array.length_toList]
  rfl

namespace Scan

/-! ## Characters of a string -/

/-- The bytes of a text are a text. -/
theorem finish_toByteArray (s : String) : finish none s.toByteArray = .ok s := by
  have hvalid : String.fromUTF8? s.toByteArray = some s := by
    rw [String.fromUTF8?, dif_pos s.isValidUTF8]
    rfl
  simp [finish, hvalid]

theorem push_eq_append (done : ByteArray) (b : UInt8) : done.push b = done ++ [b].toByteArray := by
  apply ByteArray.ext
  apply Array.toList_inj.mp
  simp

/-- Bytes that are pushed one by one stand behind the others. -/
theorem foldl_push (bytes : List UInt8) (done : ByteArray) :
    bytes.foldl ByteArray.push done = done ++ bytes.toByteArray := by
  induction bytes generalizing done with
  | nil => simp
  | cons b bytes ih =>
    rw [List.foldl_cons, ih]
    apply ByteArray.ext
    simp

/-- A byte is plain if it needs no escape and ends no string. -/
theorem isPlain_iff {b : UInt8} : isPlain b = true ↔ 0x20 ≤ b ∧ b ≠ byte '"' ∧ b ≠ byte '\\' := by
  simp [isPlain, and_assoc]

/-- A byte of a character beyond ASCII stands for itself. -/
theorem isPlain_of_le {b : UInt8} (h : 0x80 ≤ b.toNat) : isPlain b = true := by
  have hquote : b ≠ byte '"' := by rintro rfl; revert h; decide
  have hback : b ≠ byte '\\' := by rintro rfl; revert h; decide
  have hlow : 0x20 ≤ b := UInt8.le_iff_toNat_le.mpr (Nat.le_trans (by decide) h)
  simp [isPlain, hquote, hback, hlow]

/-- The bytes of a character that stands for itself do so too. -/
theorem isPlain_of_mem_utf8EncodeChar {c : Char} (hlow : ' ' ≤ c) (hquote : c ≠ '"') (hback : c ≠ '\\') :
    ∀ b ∈ String.utf8EncodeChar c, isPlain b = true := by
  intro b hb
  have hl : 32 ≤ c.val.toNat := hlow
  have hq : c.val.toNat ≠ 34 := fun h => hquote (Char.ext (UInt32.toNat_inj.mp h))
  have hk : c.val.toNat ≠ 92 := fun h => hback (Char.ext (UInt32.toNat_inj.mp h))
  unfold String.utf8EncodeChar at hb
  simp only at hb
  split at hb
  · rename_i hsmall
    obtain rfl := List.mem_singleton.mp hb
    have hn : (UInt8.ofNat c.val.toNat).toNat = c.val.toNat := by
      rw [UInt8.toNat_ofNat', Nat.mod_eq_of_lt (by omega)]
    have h1 : UInt8.ofNat c.val.toNat ≠ byte '"' := fun h => hq (hn.symm.trans (congrArg UInt8.toNat h))
    have h2 : UInt8.ofNat c.val.toNat ≠ byte '\\' := fun h => hk (hn.symm.trans (congrArg UInt8.toNat h))
    have h3 : 0x20 ≤ UInt8.ofNat c.val.toNat := by rw [UInt8.le_iff_toNat_le, hn]; exact hl
    exact isPlain_iff.mpr ⟨h3, h1, h2⟩
  · refine isPlain_of_le ?_
    have hfollow : ∀ x k : Nat, 128 ≤ k → x + k < 256 → 128 ≤ (UInt8.ofNat (x + k)).toNat := by
      intro x k hk hsum
      rw [UInt8.toNat_ofNat', Nat.mod_eq_of_lt hsum]
      omega
    split at hb
    · simp only [List.mem_cons, List.not_mem_nil, or_false] at hb
      rcases hb with rfl | rfl <;> exact hfollow _ _ (by omega) (by omega)
    · split at hb
      · simp only [List.mem_cons, List.not_mem_nil, or_false] at hb
        rcases hb with rfl | rfl | rfl <;> exact hfollow _ _ (by omega) (by omega)
      · simp only [List.mem_cons, List.not_mem_nil, or_false] at hb
        rcases hb with rfl | rfl | rfl | rfl <;> exact hfollow _ _ (by omega) (by omega)

/-- A character that is written as a letter behind a backslash. -/
theorem scanString_escape {c : Char} {text : String} (e x : UInt8) (htext : bytesOf text = [byte '\\', e])
    (hc : String.utf8EncodeChar c = [x]) (he : escapeByte? e = some x) (hu : e ≠ byte 'u') (done : ByteArray)
    (rest : Bytes) :
    scanString none done (bytesOf text ++ rest) = scanString none (done ++ (String.utf8EncodeChar c).toByteArray) rest := by
  rw [htext, hc, List.cons_append, List.cons_append, List.nil_append, scanString.eq_def]
  simp only
  rw [if_neg (by decide), if_pos trivial, if_neg hu, he, ← push_eq_append]

/-- A control that has no letter is written by its number. -/
theorem bytesOf_control : ∀ n < 32, bytesOf ("\\u" ++ Double.padLeft 4 '0' (hexText n)) =
    [byte '\\', byte 'u', byte '0', byte '0', (Nat.digitChar (n / 16)).toNat.toUInt8,
      (Nat.digitChar (n % 16)).toNat.toUInt8] := by
  decide +kernel

/-- The number of a control is read back. -/
theorem hexUnit_control : ∀ n < 32, hexUnit (byte '0') (byte '0') (Nat.digitChar (n / 16)).toNat.toUInt8
    (Nat.digitChar (n % 16)).toNat.toUInt8 = some n := by
  decide

/-- A control is read back from its number. -/
theorem scanString_control {c : Char} (hc : c < ' ') (done : ByteArray) (rest : Bytes) :
    scanString none done (bytesOf ("\\u" ++ Double.padLeft 4 '0' (hexText c.toNat)) ++ rest) =
      scanString none (done ++ (String.utf8EncodeChar c).toByteArray) rest := by
  have hn : c.toNat < 32 := hc
  rw [bytesOf_control c.toNat hn]
  simp only [List.cons_append, List.nil_append]
  rw [scanString.eq_def]
  simp only
  rw [if_neg (by decide), if_pos trivial, if_pos trivial, hexUnit_control c.toNat hn]
  simp only
  rw [if_neg (by simp only [isTrailing, Bool.and_eq_true, decide_eq_true_eq]; omega),
    if_neg (by simp only [isLeading, Bool.and_eq_true, decide_eq_true_eq]; omega)]
  simp [List.utf8Encode, Char.ofNat_toNat]

/-- A character inside a written string is read as it is. -/
theorem scanString_jsonChar (c : Char) (done : ByteArray) (rest : Bytes) :
    scanString none done (bytesOf (jsonChar c) ++ rest) =
      scanString none (done ++ (String.utf8EncodeChar c).toByteArray) rest := by
  unfold jsonChar
  split
  case h_8 hquote hback hb hf hn hr ht =>
    split
    · rename_i hc
      exact scanString_control hc done rest
    · rename_i hc
      have hplain := isPlain_of_mem_utf8EncodeChar (Char.not_lt.mp hc) hquote hback
      rw [bytesOf_singleton, scanString_append_of_plain hplain, foldl_push]
  · exact scanString_escape (byte '"') 0x22 (by cbv) rfl (by decide) (by decide) done rest
  · exact scanString_escape (byte '\\') 0x5c (by cbv) rfl (by decide) (by decide) done rest
  · exact scanString_escape (byte 'b') 0x08 (by cbv) rfl (by decide) (by decide) done rest
  · exact scanString_escape (byte 'f') 0x0c (by cbv) rfl (by decide) (by decide) done rest
  · exact scanString_escape (byte 'n') 0x0a (by cbv) rfl (by decide) (by decide) done rest
  · exact scanString_escape (byte 'r') 0x0d (by cbv) rfl (by decide) (by decide) done rest
  · exact scanString_escape (byte 't') 0x09 (by cbv) rfl (by decide) (by decide) done rest

/-- A string is read up to its closing quote. -/
theorem scanString_chars (cs : List Char) (done : ByteArray) (rest : Bytes) :
    scanString none done (cs.flatMap (fun c => bytesOf (jsonChar c)) ++ byte '"' :: rest) =
      .text (finish none (done ++ cs.utf8Encode)) rest := by
  induction cs generalizing done with
  | nil =>
    rw [List.flatMap_nil, List.nil_append, scanString.eq_def]
    simp
  | cons c cs ih =>
    rw [List.flatMap_cons, List.append_assoc, scanString_jsonChar, ih, List.utf8Encode_cons, List.utf8Encode_singleton,
      ByteArray.append_assoc]

end Scan

/-! ## Written strings -/

/-- Characters are put one behind the other. -/
theorem foldl_jsonChar (cs : List Char) (out : String) :
    bytesOf (cs.foldl (fun out c => out ++ jsonChar c) out) = bytesOf out ++ cs.flatMap fun c => bytesOf (jsonChar c) := by
  induction cs generalizing out with
  | nil => simp
  | cons c cs ih => rw [List.foldl_cons, ih, bytesOf_append, List.append_assoc, List.flatMap_cons]

/-- A string is put between quotes. -/
theorem bytesOf_putString (out s : String) :
    bytesOf (putString out s) =
      bytesOf out ++ Scan.byte '"' :: (s.toList.flatMap (fun c => bytesOf (jsonChar c)) ++ [Scan.byte '"']) := by
  have hquote : bytesOf "\"" = [Scan.byte '"'] := by cbv
  rw [putString, bytesOf_append, String.foldl_eq_foldl_toList, foldl_jsonChar, bytesOf_append, hquote]
  simp

/-- A written string is read back. -/
theorem scanString_written (s : String) (rest : List UInt8) :
    Scan.scanString none .empty (s.toList.flatMap (fun c => bytesOf (jsonChar c)) ++ Scan.byte '"' :: rest) =
      .text (.ok s) rest := by
  rw [Scan.scanString_chars, ByteArray.empty_append, String.utf8Encode_toList, Scan.finish_toByteArray]

end Switchboard
