import Switchboard.Proofs.Json.Numbers
import Switchboard.Json.Draft

/-!
# Values in a JSON text

A value that nests no deeper than the reader follows, and whose numbers are whole, is read back from its text, the fields of its
objects sorted (`Json.ofBytes?_text`). `Json.spelled` gives the bytes of a value as one list, so that the reader can be followed
through them: each value is read up to the byte behind it (`scanValue_spelled`), with the number of its bytes for fuel.
-/

namespace Switchboard

open Scan

/-! ## Values that are read back -/

/-- A whole number of 64 bits, with or without a sign. -/
def Number.isWhole : Number → Bool
  | .int n => decide (-0x8000000000000000 ≤ n) && decide (n < 0x10000000000000000)
  | .float _ => false

namespace Json

mutual

/-- All numbers are whole. -/
def isWhole : Json → Bool
  | .null | .bool _ | .string _ => true
  | .number n => n.isWhole
  | .array items => isWholeItems items
  | .object fields => isWholeFields fields

def isWholeItems : List Json → Bool
  | [] => true
  | v :: rest => v.isWhole && isWholeItems rest

def isWholeFields : List (String × Json) → Bool
  | [] => true
  | (_, v) :: rest => v.isWhole && isWholeFields rest

end

mutual

/-- How many brackets are open where a value is deepest. -/
def depth : Json → Nat
  | .null | .bool _ | .number _ | .string _ => 0
  | .array items => depthItems items + 1
  | .object fields => depthFields fields + 1

def depthItems : List Json → Nat
  | [] => 0
  | v :: rest => max v.depth (depthItems rest)

def depthFields : List (String × Json) → Nat
  | [] => 0
  | (_, v) :: rest => max v.depth (depthFields rest)

end

/-! ## The bytes of a value -/

/-- The bytes of a written string behind its opening quote. -/
def spelledChars (s : String) : List UInt8 :=
  s.toList.flatMap (fun c => bytesOf (jsonChar c)) ++ [byte '"']

mutual

/-- The bytes of a value on one line. -/
def spelled : Json → List UInt8
  | .null => [byte 'n', byte 'u', byte 'l', byte 'l']
  | .bool true => [byte 't', byte 'r', byte 'u', byte 'e']
  | .bool false => [byte 'f', byte 'a', byte 'l', byte 's', byte 'e']
  | .number n => bytesOf n.text
  | .string s => byte '"' :: spelledChars s
  | .array [] => [byte '[', byte ']']
  | .array (v :: rest) => byte '[' :: (spelled v ++ spelledItems rest)
  | .object [] => [byte '{', byte '}']
  | .object ((name, v) :: rest) => byte '{' :: byte '"' :: (spelledChars name ++ byte ':' :: (spelled v ++ spelledFields rest))

/-- The items after the first, and the closing bracket. -/
def spelledItems : List Json → List UInt8
  | [] => [byte ']']
  | v :: rest => byte ',' :: (spelled v ++ spelledItems rest)

/-- The fields after the first, and the closing bracket. -/
def spelledFields : List (String × Json) → List UInt8
  | [] => [byte '}']
  | (name, v) :: rest => byte ',' :: byte '"' :: (spelledChars name ++ byte ':' :: (spelled v ++ spelledFields rest))

end

/-- A string is put as it is spelled. -/
theorem bytesOf_putString_spelled (out s : String) : bytesOf (putString out s) = bytesOf out ++ byte '"' :: spelledChars s :=
  bytesOf_putString out s

mutual

/-- What a value appends to a text. -/
theorem bytesOf_put (out : String) : (v : Json) → bytesOf (put out v) = bytesOf out ++ spelled v
  | .null => by
    have hnull : bytesOf "null" = [byte 'n', byte 'u', byte 'l', byte 'l'] := by cbv
    rw [put, bytesOf_append, hnull, spelled]
  | .bool true => by
    have htrue : bytesOf "true" = [byte 't', byte 'r', byte 'u', byte 'e'] := by cbv
    rw [put, if_pos rfl, bytesOf_append, htrue, spelled]
  | .bool false => by
    have hfalse : bytesOf "false" = [byte 'f', byte 'a', byte 'l', byte 's', byte 'e'] := by cbv
    rw [put, if_neg Bool.false_ne_true, bytesOf_append, hfalse, spelled]
  | .number n => by rw [put, bytesOf_append, spelled]
  | .string s => by rw [put, bytesOf_putString_spelled, spelled]
  | .array [] => by
    have hempty : bytesOf "[]" = [byte '[', byte ']'] := by cbv
    rw [put, bytesOf_append, hempty, spelled]
  | .array (v :: rest) => by
    have hopen : bytesOf "[" = [byte '['] := by cbv
    rw [put, bytesOf_putItems, bytesOf_put, bytesOf_append, hopen, spelled]
    simp
  | .object [] => by
    have hempty : bytesOf "\x7b\x7d" = [byte '{', byte '}'] := by cbv
    rw [put, bytesOf_append, hempty, spelled]
  | .object ((name, v) :: rest) => by
    have hopen : bytesOf "\x7b" = [byte '{'] := by cbv
    have hcolon : bytesOf ":" = [byte ':'] := by cbv
    rw [put, bytesOf_putFields, bytesOf_put, bytesOf_append, hcolon, bytesOf_putString_spelled, bytesOf_append, hopen, spelled]
    simp

/-- Items are put as they are spelled. -/
theorem bytesOf_putItems (out : String) : (items : List Json) →
    bytesOf (putItems out items ++ "]") = bytesOf out ++ spelledItems items
  | [] => by
    have hclose : bytesOf "]" = [byte ']'] := by cbv
    rw [putItems, bytesOf_append, hclose, spelledItems]
  | v :: rest => by
    have hcomma : bytesOf "," = [byte ','] := by cbv
    rw [putItems, bytesOf_putItems, bytesOf_put, bytesOf_append, hcomma, spelledItems]
    simp

/-- Fields are put as they are spelled. -/
theorem bytesOf_putFields (out : String) : (fields : List (String × Json)) →
    bytesOf (putFields out fields ++ "\x7d") = bytesOf out ++ spelledFields fields
  | [] => by
    have hclose : bytesOf "\x7d" = [byte '}'] := by cbv
    rw [putFields, bytesOf_append, hclose, spelledFields]
  | (name, v) :: rest => by
    have hcomma : bytesOf "," = [byte ','] := by cbv
    have hcolon : bytesOf ":" = [byte ':'] := by cbv
    rw [putFields, bytesOf_putFields, bytesOf_put, bytesOf_append, hcolon, bytesOf_putString_spelled, bytesOf_append, hcomma,
      spelledFields]
    simp

end

/-- The text of a value is its spelling. -/
theorem bytesOf_text (v : Json) : bytesOf v.text = v.spelled := by
  have hempty : bytesOf "" = [] := by cbv
  rw [text, bytesOf_put, hempty, List.nil_append]

/-- The first byte of a value belongs to it. -/
theorem spelled_head : (v : Json) → v.isWhole = true →
    ∃ b bytes, v.spelled = b :: bytes ∧ isBlank b = false ∧ b ≠ byte ']'
  | .null, _ => ⟨_, _, rfl, by decide, by decide⟩
  | .bool true, _ => ⟨_, _, rfl, by decide, by decide⟩
  | .bool false, _ => ⟨_, _, rfl, by decide, by decide⟩
  | .number (.float _), h => by cases h
  | .number (.int n), _ => by
    obtain ⟨b, bytes, htext, hne⟩ := bytesOf_int_head n
    refine ⟨b, bytes, htext, ?_, hne _ (by decide) (by decide)⟩
    simp [isBlank, hne 0x20 (by decide) (by decide), hne 0x09 (by decide) (by decide), hne 0x0a (by decide) (by decide),
      hne 0x0d (by decide) (by decide)]
  | .string s, _ => ⟨_, _, rfl, by decide, by decide⟩
  | .array [], _ => ⟨_, _, rfl, by decide, by decide⟩
  | .array (_ :: _), _ => ⟨_, _, by rw [spelled], by decide, by decide⟩
  | .object [], _ => ⟨_, _, rfl, by decide, by decide⟩
  | .object (_ :: _), _ => ⟨_, _, by rw [spelled], by decide, by decide⟩

end Json

/-! ## Reading a value -/

namespace Scan

open Json Draft

/-- What ends a value in a text, or the text itself, does not go on with a number. -/
theorem endsNumber_nil : EndsNumber [] := by
  intro b hb
  cases hb

/-- A number ends before a byte that cannot be part of it. -/
theorem endsNumber_cons {b : UInt8} {rest : Bytes}
    (hb : isDigit b = false ∧ b ≠ byte '.' ∧ b ≠ byte 'e' ∧ b ≠ byte 'E') : EndsNumber (b :: rest) := by
  intro b' hb'
  obtain rfl := Option.some.inj hb'
  exact hb

/-- It ends before further items. -/
theorem endsNumber_items (items : List Json) (rest : Bytes) : EndsNumber (spelledItems items ++ rest) := by
  cases items with
  | nil => exact endsNumber_cons (by decide)
  | cons v items =>
    rw [spelledItems]
    exact endsNumber_cons (by decide)

/-- It ends before further fields. -/
theorem endsNumber_fields (fields : List (String × Json)) (rest : Bytes) : EndsNumber (spelledFields fields ++ rest) := by
  cases fields with
  | nil => exact endsNumber_cons (by decide)
  | cons field fields =>
    rw [spelledFields]
    exact endsNumber_cons (by decide)

/-- Nothing is skipped before a byte that is no blank. -/
theorem skipBlank_of_head {b : UInt8} {s : Bytes} (hb : isBlank b = false) : skipBlank (b :: s) = b :: s := by
  rw [skipBlank, List.dropWhile_cons_of_neg (by simp [hb])]

/-- A value that is neither a list nor an object is read by itself. -/
theorem scanValue_of_scalar {b : UInt8} {s : Bytes} {fuel depth : Nat} (hb : isBlank b = false) (hlist : b ≠ byte '[')
    (hobject : b ≠ byte '{') (hfuel : 0 < fuel) : scanValue fuel depth (b :: s) = scanScalar (b :: s) := by
  obtain ⟨fuel, rfl⟩ := Nat.exists_eq_add_of_lt hfuel
  rw [Nat.zero_add, scanValue, skipBlank_of_head hb]
  simp only
  rw [if_neg hlist, if_neg hobject]

/-- A string is read from its spelling. -/
theorem scanScalar_string (s : String) (rest : Bytes) :
    scanScalar (byte '"' :: (spelledChars s ++ rest)) = (.string (.ok s), rest) := by
  have hname : scanString none .empty (spelledChars s ++ rest) = .text (.ok s) rest := by
    rw [spelledChars, List.append_assoc]
    exact scanString_written s rest
  rw [scanScalar, if_neg (by decide), if_neg (by decide), if_neg (by decide), if_neg (by decide), if_neg (by decide),
    if_pos rfl, hname]

/-! ### Brackets -/

section Brackets

variable {fuel depth : Nat} {s rest : Bytes}

/-- A bracket opens a list, one level down. -/
theorem scanValue_list : scanValue (fuel + 1) (depth + 1) (byte '[' :: s) = scanItems fuel depth [] s := by
  rw [scanValue, skipBlank_of_head (by decide)]
  simp only
  rw [if_pos trivial]

/-- A brace opens an object, one level down. -/
theorem scanValue_object : scanValue (fuel + 1) (depth + 1) (byte '{' :: s) = scanMembers fuel depth [] s := by
  rw [scanValue, skipBlank_of_head (by decide)]
  simp only
  rw [if_neg (by decide), if_pos trivial]

section Items

variable {done : List Draft} {b : UInt8} {d : Draft}

/-- A list is closed by its bracket. -/
theorem scanItems_close : scanItems (fuel + 1) depth done (byte ']' :: rest) = (.list done.reverse .closed, rest) := by
  rw [scanItems, skipBlank_of_head (by decide)]
  simp only
  rw [if_pos trivial]

/-- Its first item is read where it begins. -/
theorem scanItems_first (hb : isBlank b = false) (hclose : b ≠ byte ']')
    (hvalue : scanValue fuel depth (b :: s) = (d, rest)) :
    scanItems (fuel + 1) depth [] (b :: s) = scanItems fuel depth [d] rest := by
  rw [scanItems, skipBlank_of_head hb]
  simp only
  rw [if_neg hclose, if_pos List.isEmpty_nil, hvalue]

/-- Every other item is read behind its comma. -/
theorem scanItems_next (hdone : done ≠ []) (hb : isBlank b = false) (hclose : b ≠ byte ']')
    (hvalue : scanValue fuel depth (b :: s) = (d, rest)) :
    scanItems (fuel + 1) depth done (byte ',' :: b :: s) = scanItems fuel depth (d :: done) rest := by
  rw [scanItems, skipBlank_of_head (by decide)]
  simp only
  rw [if_neg (by decide), if_neg (by simpa using hdone), if_pos trivial, skipBlank_of_head hb]
  simp only
  rw [if_neg hclose, hvalue]

end Items

section Members

variable {done : List (Except SyntaxFault String × Draft)} {d : Draft}

/-- An object is closed by its brace. -/
theorem scanMembers_close :
    scanMembers (fuel + 1) depth done (byte '}' :: rest) = (.object done.reverse .closed, rest) := by
  rw [scanMembers, skipBlank_of_head (by decide)]
  simp only
  rw [if_pos trivial]

/-- Its first member begins with a name. -/
theorem scanMembers_first :
    scanMembers (fuel + 1) depth [] (byte '"' :: s) = scanMember fuel depth [] s := by
  rw [scanMembers, skipBlank_of_head (by decide)]
  simp only
  rw [if_neg (by decide), if_pos List.isEmpty_nil, if_pos trivial]

/-- Every other member begins with a name behind its comma. -/
theorem scanMembers_next (hdone : done ≠ []) :
    scanMembers (fuel + 1) depth done (byte ',' :: byte '"' :: s) = scanMember fuel depth done s := by
  rw [scanMembers, skipBlank_of_head (by decide)]
  simp only
  rw [if_neg (by decide), if_neg (by simpa using hdone), if_pos trivial, skipBlank_of_head (by decide)]
  simp only
  rw [if_pos trivial]

/-- The name of a member is read, and its value behind the colon. -/
theorem scanMember_spelled (name : String) (hvalue : scanValue fuel depth s = (d, rest)) :
    scanMember (fuel + 1) depth done (spelledChars name ++ byte ':' :: s) =
      scanMembers fuel depth ((.ok name, d) :: done) rest := by
  have hname : scanString none .empty (spelledChars name ++ byte ':' :: s) = .text (.ok name) (byte ':' :: s) := by
    rw [spelledChars, List.append_assoc]
    exact scanString_written name (byte ':' :: s)
  rw [scanMember, hname]
  simp only
  rw [skipBlank_of_head (by decide)]
  simp only
  rw [if_pos trivial, hvalue]

end Members

end Brackets

/-! ### Whole values -/

theorem length_spelledItems_pos (items : List Json) : 0 < (spelledItems items).length := by
  cases items with
  | nil => exact Nat.one_pos
  | cons v items =>
    rw [spelledItems]
    exact Nat.succ_pos _

mutual

/-- A value is read up to the byte behind it. -/
theorem scanValue_spelled {fuel depth : Nat} {rest : Bytes} (hrest : EndsNumber rest) : (v : Json) → v.isWhole = true →
    v.depth ≤ depth → v.spelled.length ≤ fuel → scanValue fuel depth (v.spelled ++ rest) = (ofValue v, rest)
  | .null, _, _, hfuel => by
    rw [spelled] at hfuel ⊢
    exact scanValue_of_scalar (by decide) (by decide) (by decide) (Nat.lt_of_lt_of_le (by decide) hfuel)
  | .bool true, _, _, hfuel => by
    rw [spelled] at hfuel ⊢
    exact scanValue_of_scalar (by decide) (by decide) (by decide) (Nat.lt_of_lt_of_le (by decide) hfuel)
  | .bool false, _, _, hfuel => by
    rw [spelled] at hfuel ⊢
    exact scanValue_of_scalar (by decide) (by decide) (by decide) (Nat.lt_of_lt_of_le (by decide) hfuel)
  | .number (.float _), hwhole, _, _ => by cases hwhole
  | .number (.int n), hwhole, _, hfuel => by
    obtain ⟨b, bytes, htext, hne⟩ := bytesOf_int_head n
    obtain ⟨b', bytes', hspelled, hblank, -⟩ := spelled_head (.number (.int n)) hwhole
    have hsame : (Json.number (.int n)).spelled = b :: bytes := htext
    obtain ⟨rfl, rfl⟩ := List.cons.inj (hspelled.symm.trans hsame)
    simp only [isWhole, Number.isWhole, Bool.and_eq_true, decide_eq_true_eq] at hwhole
    have hscalar := scanScalar_int hwhole.1 hwhole.2 hrest
    rw [htext, List.cons_append] at hscalar
    rw [hsame] at hfuel ⊢
    rw [List.cons_append, scanValue_of_scalar hblank (hne _ (by decide) (by decide)) (hne _ (by decide) (by decide))
      (Nat.lt_of_lt_of_le (Nat.succ_pos _) hfuel), hscalar, ofValue]
  | .string s, _, _, hfuel => by
    rw [spelled] at hfuel
    rw [spelled, List.cons_append, scanValue_of_scalar (by decide) (by decide) (by decide)
      (Nat.lt_of_lt_of_le (Nat.succ_pos _) hfuel), scanScalar_string, ofValue]
  | .array [], _, hdepth, hfuel => by
    obtain ⟨depth, rfl⟩ := Nat.exists_eq_add_of_le' hdepth
    obtain ⟨fuel, rfl⟩ := Nat.exists_eq_add_of_le' hfuel
    exact scanValue_list.trans scanItems_close
  | .array (v :: items), hwhole, hdepth, hfuel => by
    obtain ⟨depth, rfl⟩ := Nat.exists_eq_add_of_le' (Nat.le_trans (Nat.le_add_left 1 _) hdepth)
    obtain ⟨hfirst, hothers⟩ := (Bool.and_eq_true _ _).mp hwhole
    obtain ⟨b, bytes, hspelled, hblank, hclose⟩ := spelled_head v hfirst
    have hdeep : max v.depth (depthItems items) ≤ depth := Nat.le_of_add_le_add_right hdepth
    have hlength : v.spelled.length + (spelledItems items).length + 1 ≤ fuel := by
      rwa [spelled, List.length_cons, List.length_append] at hfuel
    -- both the first item and what stands behind it take a byte, so that either leaves fuel enough for the other
    have hsome : 0 < v.spelled.length := by
      rw [hspelled]
      exact Nat.succ_pos _
    have hclosing := length_spelledItems_pos items
    obtain ⟨fuel, rfl⟩ : ∃ m, fuel = m + 2 := ⟨fuel - 2, by omega⟩
    have hvalue := scanValue_spelled (endsNumber_items items rest) v hfirst (Nat.le_trans (Nat.le_max_left _ _) hdeep)
      (show v.spelled.length ≤ fuel by omega)
    rw [hspelled, List.cons_append] at hvalue
    have hitems := scanItems_spelled fuel rest (List.cons_ne_nil (ofValue v) []) items hothers
      (Nat.le_trans (Nat.le_max_right _ _) hdeep) (by omega)
    rw [spelled, List.cons_append, List.append_assoc, scanValue_list, hspelled, List.cons_append,
      scanItems_first hblank hclose hvalue, hitems, ofValue, ofItems]
    rfl
  | .object [], _, hdepth, hfuel => by
    obtain ⟨depth, rfl⟩ := Nat.exists_eq_add_of_le' hdepth
    obtain ⟨fuel, rfl⟩ := Nat.exists_eq_add_of_le' hfuel
    exact scanValue_object.trans scanMembers_close
  | .object ((name, v) :: fields), hwhole, hdepth, hfuel => by
    obtain ⟨depth, rfl⟩ := Nat.exists_eq_add_of_le' (Nat.le_trans (Nat.le_add_left 1 _) hdepth)
    obtain ⟨hfirst, hothers⟩ := (Bool.and_eq_true _ _).mp hwhole
    have hdeep : max v.depth (depthFields fields) ≤ depth := Nat.le_of_add_le_add_right hdepth
    have hlength : v.spelled.length + (spelledFields fields).length + 3 ≤ fuel := by
      simp only [spelled, List.length_cons, List.length_append] at hfuel
      omega
    obtain ⟨fuel, rfl⟩ : ∃ m, fuel = m + 3 := ⟨fuel - 3, by omega⟩
    have hvalue := scanValue_spelled (endsNumber_fields fields rest) v hfirst (Nat.le_trans (Nat.le_max_left _ _) hdeep)
      (show v.spelled.length ≤ fuel by omega)
    have hfields := scanMembers_spelled fuel rest (List.cons_ne_nil (.ok name, ofValue v) []) fields hothers
      (Nat.le_trans (Nat.le_max_right _ _) hdeep) (by omega)
    rw [spelled, List.cons_append, List.cons_append, List.append_assoc, List.cons_append, List.append_assoc, scanValue_object,
      scanMembers_first, scanMember_spelled name hvalue, hfields, ofValue, ofFields]
    rfl

/-- The items after the first are read, and the closing bracket. -/
theorem scanItems_spelled (fuel : Nat) {depth : Nat} (rest : Bytes) {done : List Draft} (hdone : done ≠ []) :
    (items : List Json) → isWholeItems items = true → depthItems items ≤ depth → (spelledItems items).length ≤ fuel →
    scanItems fuel depth done (spelledItems items ++ rest) = (.list (done.reverse ++ ofItems items) .closed, rest)
  | [], _, _, hfuel => by
    obtain ⟨fuel, rfl⟩ := Nat.exists_eq_add_of_le' hfuel
    rw [ofItems, List.append_nil]
    exact scanItems_close
  | v :: items, hwhole, hdepth, hfuel => by
    obtain ⟨hfirst, hothers⟩ := (Bool.and_eq_true _ _).mp hwhole
    obtain ⟨b, bytes, hspelled, hblank, hclose⟩ := spelled_head v hfirst
    have hlength : v.spelled.length + (spelledItems items).length + 1 ≤ fuel := by
      rwa [spelledItems, List.length_cons, List.length_append] at hfuel
    obtain ⟨fuel, rfl⟩ := Nat.exists_eq_add_of_le' (Nat.le_trans (Nat.le_add_left 1 _) hlength)
    have hvalue := scanValue_spelled (endsNumber_items items rest) v hfirst (Nat.le_trans (Nat.le_max_left _ _) hdepth)
      (show v.spelled.length ≤ fuel by omega)
    rw [hspelled, List.cons_append] at hvalue
    have hitems := scanItems_spelled fuel rest (List.cons_ne_nil (ofValue v) done) items hothers
      (Nat.le_trans (Nat.le_max_right _ _) hdepth) (by omega)
    rw [spelledItems, List.cons_append, List.append_assoc, hspelled, List.cons_append,
      scanItems_next hdone hblank hclose hvalue, hitems, ofItems, List.reverse_cons, List.append_assoc]
    rfl

/-- The members after the first are read, and the closing bracket. -/
theorem scanMembers_spelled (fuel : Nat) {depth : Nat} (rest : Bytes) {done : List (Except SyntaxFault String × Draft)}
    (hdone : done ≠ []) : (fields : List (String × Json)) → isWholeFields fields = true → depthFields fields ≤ depth →
    (spelledFields fields).length ≤ fuel →
    scanMembers fuel depth done (spelledFields fields ++ rest) = (.object (done.reverse ++ ofFields fields) .closed, rest)
  | [], _, _, hfuel => by
    obtain ⟨fuel, rfl⟩ := Nat.exists_eq_add_of_le' hfuel
    rw [ofFields, List.append_nil]
    exact scanMembers_close
  | (name, v) :: fields, hwhole, hdepth, hfuel => by
    obtain ⟨hfirst, hothers⟩ := (Bool.and_eq_true _ _).mp hwhole
    have hlength : v.spelled.length + (spelledFields fields).length + 2 ≤ fuel := by
      simp only [spelledFields, List.length_cons, List.length_append] at hfuel
      omega
    obtain ⟨fuel, rfl⟩ : ∃ m, fuel = m + 2 := ⟨fuel - 2, by omega⟩
    have hvalue := scanValue_spelled (endsNumber_fields fields rest) v hfirst (Nat.le_trans (Nat.le_max_left _ _) hdepth)
      (show v.spelled.length ≤ fuel by omega)
    have hfields := scanMembers_spelled fuel rest (List.cons_ne_nil (.ok name, ofValue v) done) fields
      hothers (Nat.le_trans (Nat.le_max_right _ _) hdepth) (by omega)
    rw [spelledFields, List.cons_append, List.cons_append, List.append_assoc, List.cons_append, List.append_assoc,
      scanMembers_next hdone, scanMember_spelled name hvalue, hfields, ofFields, List.reverse_cons, List.append_assoc]
    rfl

end

end Scan

/-! ## Whole texts -/

namespace Json

mutual

/-- The draft of a value is of that value, with its fields sorted. -/
theorem value_ofValue : (v : Json) → (Draft.ofValue v).value = .ok v.canonical
  | .null => rfl
  | .bool _ => rfl
  | .number _ => rfl
  | .string _ => rfl
  | .array items => by rw [Draft.ofValue, Draft.value, valueItems_ofItems, canonical, List.reverse_nil, List.nil_append]
  | .object fields => by
    rw [Draft.ofValue, Draft.value, valueMembers_ofFields, canonical, List.reverse_nil, List.nil_append]

/-- Items that are read whole come to the list of their sorted forms. -/
theorem valueItems_ofItems (done : List Json) : (items : List Json) →
    Draft.valueItems (Draft.ofItems items) .closed done = .ok (.array (done.reverse ++ canonicalItems items))
  | [] => by
    rw [Draft.ofItems, Draft.valueItems, canonicalItems, List.append_nil]
    rfl
  | v :: items => by
    rw [Draft.ofItems, Draft.valueItems, value_ofValue]
    simp only
    rw [valueItems_ofItems, canonicalItems, List.reverse_cons, List.append_assoc]
    rfl

/-- Members that are read whole come to the object of theirs. -/
theorem valueMembers_ofFields (done : List (String × Json)) : (fields : List (String × Json)) →
    Draft.valueMembers (Draft.ofFields fields) .closed done =
      .ok (.object (sortFields (done.reverse ++ canonicalFields fields)))
  | [] => by
    rw [Draft.ofFields, Draft.valueMembers, canonicalFields, List.append_nil]
    rfl
  | (name, v) :: fields => by
    rw [Draft.ofFields, Draft.valueMembers, value_ofValue]
    simp only
    rw [valueMembers_ofFields, canonicalFields, List.reverse_cons, List.append_assoc]
    rfl

end

end Json

/-- The text of a value is read as the draft of the value. -/
theorem Draft.ofBytes_text {v : Json} (hwhole : v.isWhole = true) (hdepth : v.depth ≤ depthLimit) :
    Draft.ofBytes (bytesOf v.text) = (Draft.ofValue v, []) := by
  have hread := scanValue_spelled endsNumber_nil v hwhole hdepth
    (show v.spelled.length ≤ 4 * v.spelled.length + 4 by omega)
  rwa [List.append_nil, ← Json.bytesOf_text] at hread

/-- A message is read from the text of its value as it is from the value. -/
theorem Draft.readWhole_text {α ε : Type} (read : Draft → Except ε α) (syntaxError : SyntaxFault → ε) {v : Json}
    (hwhole : v.isWhole = true) (hdepth : v.depth ≤ depthLimit) :
    Draft.readWhole read syntaxError (bytesOf v.text) = read (Draft.ofValue v) := by
  rw [Draft.readWhole, Draft.ofBytes_text hwhole hdepth]
  simp only
  split
  · rename_i hread
    exact hread.symm
  · rename_i hread
    have hend : skipBlank [] = [] := rfl
    rw [hread, if_pos hend]

/-- The text of a value is read back, the fields of its objects sorted. -/
theorem Json.ofBytes?_text {v : Json} (hwhole : v.isWhole = true) (hdepth : v.depth ≤ depthLimit) :
    Json.ofBytes? (bytesOf v.text) = .ok v.canonical := by
  rw [Json.ofBytes?, Draft.readWhole_text _ _ hwhole hdepth, value_ofValue]

end Switchboard
