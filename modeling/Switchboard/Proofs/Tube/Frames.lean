import Switchboard.Tube.Frame
import Switchboard.Proofs.Json.Canonical

/-!
# Frames in a stream

A frame is a body behind the header that announces its length (`Frame.ofBody`). A length that a frame may have is admitted
(`Frame.Admits`), and the two sides agree on it: a header is refused exactly if the length that it announces is not admitted
(`Frame.next_refused_iff`), and a value is encoded exactly if the length of its text is (`Frame.encode_eq_ok_iff`). A frame is
taken whole from the front of a stream (`Frame.next_ofBody`), and of a frame that is cut short nothing is taken
(`Frame.next_take_ofBody`).
-/

namespace Switchboard

/-! ## Texts are not empty -/

/-- A double has a text. -/
theorem Double.utf8ByteSize_positiveText_pos (l : Layout) (c : Nat) (k : Int) : 0 < (positiveText l c k).utf8ByteSize := by
  -- there is a point or an exponent in each form
  have hpoint : 0 < ".".utf8ByteSize := by decide
  have hwhole : 0 < ".0".utf8ByteSize := by decide
  have hpart : 0 < "0.".utf8ByteSize := by decide
  have hexponent : 0 < "e".utf8ByteSize := by decide
  unfold positiveText
  dsimp only
  split
  · split
    · simp only [String.utf8ByteSize_append]
      omega
    · split
      · simp only [String.utf8ByteSize_append]
        omega
      · simp only [String.utf8ByteSize_append]
        omega
  · simp only [String.utf8ByteSize_append]
    omega

/-- So has one with a sign. -/
theorem Double.utf8ByteSize_text_pos (x : Double) : 0 < x.text.utf8ByteSize := by
  have hbody : 0 < (if x.magnitude = 0 then "0.0" else positiveText layout x.shortest.1 x.shortest.2).utf8ByteSize := by
    split
    · decide
    · exact utf8ByteSize_positiveText_pos _ _ _
  rw [text]
  dsimp only
  split
  · rw [String.utf8ByteSize_append]
    omega
  · exact hbody

/-- There is no value without a text. -/
theorem Json.utf8ByteSize_text_pos (v : Json) : 0 < v.text.utf8ByteSize := by
  rw [← length_bytesOf, bytesOf_text]
  match v with
  | .null | .bool true | .bool false | .string _ | .array [] | .object [] => exact Nat.succ_pos _
  | .array (_ :: _) | .object (_ :: _) =>
    rw [spelled]
    exact Nat.succ_pos _
  | .number (.int n) =>
    obtain ⟨b, bytes, htext, -⟩ := Scan.bytesOf_int_head n
    rw [spelled, Number.text, htext]
    exact Nat.succ_pos _
  | .number (.float x) =>
    rw [spelled, Number.text, length_bytesOf]
    exact x.utf8ByteSize_text_pos

namespace Frame

/-! ## Lengths -/

/-- The lengths that a body may have. -/
def Admits (size : Nat) : Prop :=
  0 < size ∧ size ≤ sizeLimit

instance (size : Nat) : Decidable (Admits size) :=
  inferInstanceAs (Decidable (_ ∧ _))

/-- A header announces the length that it was made of. -/
theorem announced_header {size : Nat} (h : size < 0x100000000) :
    announced size.toUInt8 (size / 0x100).toUInt8 (size / 0x10000).toUInt8 (size / 0x1000000).toUInt8 = size := by
  have hbyte : ∀ n : Nat, n.toUInt8.toNat = n % 256 := fun n => UInt8.toNat_ofNat'
  simp only [announced, hbyte]
  omega

/-- The four bytes of a header announce the length that they were made from. -/
theorem Admits.announced_header {size : Nat} (h : Admits size) :
    announced size.toUInt8 (size / 0x100).toUInt8 (size / 0x10000).toUInt8 (size / 0x1000000).toUInt8 = size :=
  Frame.announced_header (Nat.lt_of_le_of_lt h.2 (by decide))

/-- Behind a header whose length is admitted stands a body, or what there is of it. -/
theorem next_of_admits {a b c d : UInt8} (h : Admits (announced a b c d)) (rest : List UInt8) :
    next (a :: b :: c :: d :: rest) =
      match splitAt? (announced a b c d) rest with
      | some (body, rest) => .frame body rest
      | none => .incomplete := by
  rw [next.eq_def]
  dsimp only
  exact (if_neg (Nat.ne_of_gt h.1)).trans (if_neg (Nat.not_lt.mpr h.2))

/-- A header is refused exactly if the length that it announces is not admitted. -/
theorem next_refused_iff (a b c d : UInt8) (rest : List UInt8) :
    (∃ e left, next (a :: b :: c :: d :: rest) = .refused e left) ↔ ¬ Admits (announced a b c d) := by
  constructor
  · rintro ⟨e, left, hrefused⟩ hadmits
    rw [next_of_admits hadmits] at hrefused
    split at hrefused <;> cases hrefused
  · intro hsize
    rw [next.eq_def]
    dsimp only
    by_cases hzero : announced a b c d = 0
    · exact ⟨_, _, if_pos hzero⟩
    · have hlong : sizeLimit < announced a b c d := by
        by_contra hshort
        exact hsize ⟨Nat.pos_of_ne_zero hzero, Nat.not_lt.mp hshort⟩
      rw [if_neg hzero, if_pos hlong]
      exact ⟨_, _, rfl⟩

/-! ## Whole frames -/

/-- A body behind its header. -/
def ofBody (body : List UInt8) : List UInt8 :=
  header body.length ++ body

/-- A frame is four bytes longer than its body. -/
theorem length_ofBody (body : List UInt8) : (ofBody body).length = body.length + 4 := by
  rw [ofBody, List.length_append, header]
  exact Nat.add_comm _ _

/-- A body is taken from behind its header. -/
theorem next_ofBody {body : List UInt8} (h : Admits body.length) (rest : List UInt8) :
    next (ofBody body ++ rest) = .frame body rest := by
  have hsplit : splitAt? body.length (body ++ rest) = some (body, rest) := by
    rw [splitAt?, List.splitAt_eq, List.take_left, List.drop_left]
    exact if_pos rfl
  have hnext := next_of_admits (h.announced_header.symm ▸ h) (body ++ rest)
  rw [h.announced_header, hsplit] at hnext
  rw [ofBody, List.append_assoc]
  exact hnext

/-- Of a frame that is cut short nothing is taken. -/
theorem next_take_ofBody {body : List UInt8} (h : Admits body.length) {k : Nat} (hk : k < (ofBody body).length) :
    next ((ofBody body).take k) = .incomplete := by
  rw [length_ofBody] at hk
  rw [ofBody, header]
  match k with
  | 0 | 1 | 2 | 3 => rfl
  | k + 4 =>
    have hcut : splitAt? body.length (body.take k) = none := by
      rw [splitAt?, List.splitAt_eq, List.take_take]
      refine if_neg fun heq => ?_
      rw [List.length_take] at heq
      omega
    have hnext := next_of_admits (h.announced_header.symm ▸ h) (body.take k)
    rw [h.announced_header, hcut] at hnext
    exact hnext

/-- A header is the one that is made of the length that it announces. -/
theorem header_announced (a b c d : UInt8) : header (announced a b c d) = [a, b, c, d] := by
  have ha := a.toNat_lt
  have hb := b.toNat_lt
  have hc := c.toNat_lt
  have hd := d.toNat_lt
  have hbyte : ∀ (n : Nat) (x : UInt8), n % 256 = x.toNat → n.toUInt8 = x := by
    intro n x hn
    rw [← UInt8.toNat_inj]
    exact UInt8.toNat_ofNat'.trans hn
  rw [header, announced, hbyte _ a (by omega), hbyte _ b (by omega), hbyte _ c (by omega), hbyte _ d (by omega)]

/-- A list is taken apart behind a front of the wanted length. -/
theorem splitAt?_eq_some {n : Nat} {s front rest : List UInt8} (h : splitAt? n s = some (front, rest)) :
    front.length = n ∧ s = front ++ rest := by
  rw [splitAt?, List.splitAt_eq] at h
  dsimp only at h
  split at h
  · rename_i hlength
    obtain ⟨rfl, rfl⟩ := Prod.mk.inj (Option.some.inj h)
    exact ⟨hlength, (List.take_append_drop n s).symm⟩
  · cases h

/-- What is taken from a stream is a body behind its header. -/
theorem next_eq_frame_iff {s body rest : List UInt8} :
    next s = .frame body rest ↔ Admits body.length ∧ s = ofBody body ++ rest := by
  refine ⟨fun h => ?_, fun ⟨hadmits, hs⟩ => hs ▸ next_ofBody hadmits rest⟩
  match s with
  | [] | [_] | [_, _] | [_, _, _] => cases h
  | a :: b :: c :: d :: tail =>
    have hadmits : Admits (announced a b c d) := by
      by_contra hrefused
      obtain ⟨e, left, hnext⟩ := (next_refused_iff a b c d tail).mpr hrefused
      rw [hnext] at h
      cases h
    rw [next_of_admits hadmits] at h
    cases hsplit : splitAt? (announced a b c d) tail with
    | none =>
      rw [hsplit] at h
      cases h
    | some parts =>
      obtain ⟨front, left⟩ := parts
      obtain ⟨hlength, htail⟩ := splitAt?_eq_some hsplit
      rw [hsplit] at h
      injection h with hbody hrest
      subst hbody hrest
      refine ⟨hlength.symm ▸ hadmits, ?_⟩
      rw [ofBody, hlength, header_announced, htail]
      rfl

/-- A frame is taken whatever is written behind it. -/
theorem next_append_of_frame {s body rest : List UInt8} (h : next s = .frame body rest) (t : List UInt8) :
    next (s ++ t) = .frame body (rest ++ t) := by
  obtain ⟨hadmits, rfl⟩ := next_eq_frame_iff.mp h
  rw [List.append_assoc]
  exact next_ofBody hadmits (rest ++ t)

/-- So is a header refused. -/
theorem next_append_of_refused {s rest : List UInt8} {e : TubeError} (h : next s = .refused e rest) (t : List UInt8) :
    next (s ++ t) = .refused e (rest ++ t) := by
  match s with
  | [] | [_] | [_, _] | [_, _, _] => cases h
  | a :: b :: c :: d :: tail =>
    rw [next.eq_def] at h
    dsimp only at h
    rw [List.cons_append, List.cons_append, List.cons_append, List.cons_append, next.eq_def]
    dsimp only
    split at h
    · cases h
      rw [if_pos ‹_›]
    · rename_i hzero
      rw [if_neg hzero]
      split at h
      · cases h
        rw [if_pos ‹_›]
      · split at h <;> cases h

/-! ## Texts in frames -/

/-- A text behind its header. -/
def framed (text : String) : List UInt8 :=
  header text.utf8ByteSize ++ bytesOf text

theorem framed_eq (text : String) : framed text = ofBody (bytesOf text) := by
  rw [framed, ofBody, length_bytesOf]

/-- A text that fits has its frame. -/
theorem encode_eq {text : String} (h : text.utf8ByteSize ≤ sizeLimit) : encode text = .ok (framed text) := by
  have hheader : headerOf text = .ok (header text.utf8ByteSize) := if_neg (Nat.not_lt.mpr h)
  rw [encode, hheader]
  rfl

/-- One that does not is too large. -/
theorem encode_eq_error {text : String} (h : sizeLimit < text.utf8ByteSize) :
    encode text = .error (.messageTooLarge text.utf8ByteSize) := by
  have hheader : headerOf text = .error (.messageTooLarge text.utf8ByteSize) := if_pos h
  rw [encode, hheader]
  rfl

/-- A value is encoded exactly if the length of its text is admitted. -/
theorem encode_eq_ok_iff (v : Json) : (∃ frame, encode v.text = .ok frame) ↔ Admits v.text.utf8ByteSize := by
  constructor
  · rintro ⟨frame, hframe⟩
    refine ⟨v.utf8ByteSize_text_pos, Nat.not_lt.mp fun hlong => ?_⟩
    rw [encode_eq_error hlong] at hframe
    cases hframe
  · exact fun h => ⟨_, encode_eq h.2⟩

/-- A text is taken from behind its header. -/
theorem next_framed {text : String} (h : Admits text.utf8ByteSize) (rest : List UInt8) :
    next (framed text ++ rest) = .frame (bytesOf text) rest := by
  rw [framed_eq]
  exact next_ofBody (length_bytesOf text ▸ h) rest

end Frame

/-! ## Messages -/

/-- A message that is not too long may be sent. -/
theorem Parcel.admits_toText {α : Type} [Parcel α] {x : α} (h : (toText x).utf8ByteSize ≤ Frame.sizeLimit) :
    Frame.Admits (toText x).utf8ByteSize :=
  ⟨Json.utf8ByteSize_text_pos _, h⟩

/-- A message is read from its text if it is read from its value. -/
theorem ofMessage_toText {α : Type} [Parcel α] {x : α} (hwhole : (Parcel.encode x).isWhole = true)
    (hdepth : (Parcel.encode x).depth ≤ Scan.depthLimit)
    (hread : (Parcel.shape α).read .text (Draft.ofValue (Parcel.encode x)) = .ok (Parcel.toCarrier x)) :
    (Parcel.ofMessage (bytesOf (Parcel.toText x)) : Except TubeError α) = .ok x := by
  rw [Parcel.ofMessage, Parcel.ofBytes, Parcel.toText, Draft.readWhole_text _ _ hwhole hdepth, Parcel.read, hread]
  exact congrArg Except.ok (Parcel.ofCarrier_toCarrier x)

end Switchboard
