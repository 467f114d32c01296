import Switchboard.Proofs.Json.Literals

/-!
# Objects of strings and whole numbers

The texts of an object whose members are strings and whole numbers without a sign (`ObjectText`): any of its names and strings may
be written with escapes, and blanks may stand between any two of its parts. `Draft.ofBytes_eq_object_iff` says that the reader
takes a text for such an object exactly if it begins with one, blanks aside, and reads no further than its closing brace.
-/

namespace Switchboard

open Scan

/-- A string, or a whole number of 64 bits without a sign. -/
inductive FlatValue where
  | text (s : String)
  | whole (n : UInt64)
deriving DecidableEq, Repr

/-- The draft of such a value. -/
def FlatValue.draft : FlatValue → Draft
  | .text s => .string (.ok s)
  | .whole n => .number (.ok (.int n.toNat))

/-- A member of an object with such values. -/
abbrev FlatMember := String × FlatValue

/-- The draft of a member. -/
def FlatMember.draft (m : FlatMember) : Except SyntaxFault String × Draft :=
  (.ok m.1, m.2.draft)

/-- A value is told by what is read of it. -/
theorem FlatValue.draft_injective : Function.Injective FlatValue.draft := by
  intro v w h
  cases v <;> cases w <;> simp_all [FlatValue.draft, UInt64.toNat_inj]

/-- So is a member. -/
theorem FlatMember.draft_injective : Function.Injective FlatMember.draft := by
  intro m m' h
  obtain ⟨hname, hvalue⟩ := Prod.mk.inj h
  exact Prod.ext (Except.ok.inj hname) (FlatValue.draft_injective hvalue)

/-! ## Texts -/

/-- The space, the tab, the line feed and the carriage return. -/
def blanks : Bytes :=
  [0x20, 0x09, 0x0a, 0x0d]

/-- What may stand between the parts of a text. -/
def AllBlank (s : Bytes) : Prop :=
  ∀ b ∈ s, b ∈ blanks

/-- How a string is written. -/
inductive StringText (s : String) : Bytes → Prop where
  | quoted {text : Bytes} (chars : Chars text (bytesOf s)) : StringText s (byte '"' :: (text ++ [byte '"']))

/-- How a value is written. -/
inductive ValueText : FlatValue → Bytes → Prop where
  | text {s : String} {text : Bytes} (h : StringText s text) : ValueText (.text s) text
  | whole (n : UInt64) : ValueText (.whole n) (bytesOf n.toNat.repr)

/-- How a member is written: its name, a colon and its value. -/
inductive MemberText : FlatMember → Bytes → Prop where
  | mk {name : String} {v : FlatValue} {front text between behind value : Bytes} (hfront : AllBlank front)
      (hname : StringText name text) (hbetween : AllBlank between) (hbehind : AllBlank behind) (hvalue : ValueText v value) :
      MemberText (name, v) (front ++ (text ++ (between ++ byte ':' :: (behind ++ value))))

/-- How the members after the first are written, and the closing brace. -/
inductive MembersText : List FlatMember → Bytes → Prop where
  | close {front : Bytes} (hfront : AllBlank front) : MembersText [] (front ++ [byte '}'])
  | next {front text rest : Bytes} {m : FlatMember} {members : List FlatMember} (hfront : AllBlank front)
      (hm : MemberText m text) (hrest : MembersText members rest) :
      MembersText (m :: members) (front ++ byte ',' :: (text ++ rest))

/-- How an object is written. -/
inductive ObjectText : List FlatMember → Bytes → Prop where
  | empty {front : Bytes} (hfront : AllBlank front) : ObjectText [] (byte '{' :: (front ++ [byte '}']))
  | members {text rest : Bytes} {m : FlatMember} {members : List FlatMember} (hm : MemberText m text)
      (hrest : MembersText members rest) : ObjectText (m :: members) (byte '{' :: (text ++ rest))

namespace Scan

/-! ## Blanks -/

theorem isBlank_iff {b : UInt8} : isBlank b = true ↔ b ∈ blanks := by
  simp [isBlank, blanks, or_assoc]

/-- Blanks in front are skipped. -/
theorem skipBlank_append {front : Bytes} (h : AllBlank front) (s : Bytes) : skipBlank (front ++ s) = skipBlank s :=
  List.dropWhile_append_of_pos fun b hb => isBlank_iff.mpr (h b hb)

/-- Blanks, and then something else. -/
theorem skipBlank_append_cons {front : Bytes} (h : AllBlank front) {b : UInt8} (hb : isBlank b = false) (s : Bytes) :
    skipBlank (front ++ b :: s) = b :: s := by
  rw [skipBlank_append h, skipBlank_of_head hb]

/-- What is skipped is blanks. -/
theorem exists_skipBlank (s : Bytes) : ∃ front, AllBlank front ∧ s = front ++ skipBlank s :=
  ⟨s.takeWhile isBlank, fun _ hb => isBlank_iff.mp (List.mem_takeWhile_imp hb), List.takeWhile_append_dropWhile.symm⟩

/-- Nothing is left if there was nothing but blanks. -/
theorem skipBlank_eq_nil_iff {s : Bytes} : skipBlank s = [] ↔ AllBlank s :=
  List.dropWhile_eq_nil_iff.trans (forall₂_congr fun _ _ => isBlank_iff)

/-! ## What is read as neither a string nor a number -/

/-- What stands in brackets is read as a list, or there is nothing. -/
theorem scanItems_fst (fuel depth : Nat) (done : List Draft) (s : Bytes) :
    (scanItems fuel depth done s).1 = .absent ∨ ∃ items ending, (scanItems fuel depth done s).1 = .list items ending := by
  induction fuel generalizing done s with
  | zero => exact .inl (by rw [scanItems])
  | succ fuel ih =>
    rw [scanItems]
    split
    · exact .inr ⟨_, _, rfl⟩
    · split_ifs
      · exact .inr ⟨_, _, rfl⟩
      · exact ih _ _
      · split
        · exact .inr ⟨_, _, rfl⟩
        · split_ifs
          · exact .inr ⟨_, _, rfl⟩
          · exact ih _ _
      · exact .inr ⟨_, _, rfl⟩

/-- What is read behind a brace is an object, if there is fuel enough. -/
theorem scanMembers_fst : (fuel : Nat) → (depth : Nat) → (done : List (Except SyntaxFault String × Draft)) → (s : Bytes) →
    (scanMembers fuel depth done s).1 = .absent ∨ ∃ members ending, (scanMembers fuel depth done s).1 = .object members ending
  | 0, _, _, _ => .inl (by rw [scanMembers])
  | fuel + 1, depth, done, s => by
    have hmember : ∀ t, (scanMember fuel depth done t).1 = .absent ∨
        ∃ members ending, (scanMember fuel depth done t).1 = .object members ending := by
      intro t
      cases fuel with
      | zero => exact .inl (by rw [scanMember])
      | succ fuel =>
        rw [scanMember]
        split
        · exact .inr ⟨_, _, rfl⟩
        · split
          · exact .inr ⟨_, _, rfl⟩
          · split_ifs
            · exact scanMembers_fst fuel _ _ _
            · exact .inr ⟨_, _, rfl⟩
    rw [scanMembers]
    split
    · exact .inr ⟨_, _, rfl⟩
    · split_ifs
      · exact .inr ⟨_, _, rfl⟩
      · exact hmember _
      · exact .inr ⟨_, _, rfl⟩
      · split
        · exact .inr ⟨_, _, rfl⟩
        · split
          · exact hmember _
          · exact .inr ⟨_, _, rfl⟩
      · exact .inr ⟨_, _, rfl⟩

/-! ## Values -/

/-- What is read in one piece, and is neither a string nor a number. -/
inductive IsWord : Draft → Prop where
  | absent : IsWord .absent
  | null : IsWord .null
  | bool (b : Bool) : IsWord (.bool b)
  | broken (a b c : SyntaxFault) : IsWord (.broken a b c)

/-- A name that is expected gives its word, or is broken. -/
theorem scanName_isWord {d : Draft} (hd : IsWord d) (expected s : Bytes) : IsWord (scanName d expected s).1 := by
  induction expected generalizing s with
  | nil => rwa [scanName]
  | cons e expected ih =>
    cases s with
    | nil =>
      rw [scanName]
      exact .broken _ _ _
    | cons b s =>
      rw [scanName]
      split
      · exact ih s
      · exact .broken _ _ _

/-- What is read as a number is one, or broken. -/
def IsNumeric (d : Draft) : Prop :=
  (∃ n, d = .number n) ∨ ∃ a b c, d = .broken a b c

theorem isNumeric_number (n : Except SyntaxFault Number) : IsNumeric (.number n) := .inl ⟨n, rfl⟩

theorem isNumeric_broken (a b c : SyntaxFault) : IsNumeric (.broken a b c) := .inr ⟨a, b, c, rfl⟩

theorem IsNumeric.ne_string {d : Draft} (h : IsNumeric d) {t : Except SyntaxFault String} : d ≠ .string t := by
  rintro rfl
  rcases h with ⟨n, hn⟩ | ⟨a, b, c, hbroken⟩
  · cases hn
  · cases hbroken

theorem IsNumeric.ne_object {d : Draft} (h : IsNumeric d) {members : List (Except SyntaxFault String × Draft)} {ending : Ending} :
    d ≠ .object members ending := by
  rintro rfl
  rcases h with ⟨n, hn⟩ | ⟨a, b, c, hbroken⟩
  · cases hn
  · cases hbroken

/-- An exponent is part of a number. -/
theorem scanExponent_isNumeric (l : Literal) (s : Bytes) : IsNumeric (scanExponent l s).1 := by
  rw [scanExponent.eq_def]
  dsimp only
  split
  · exact isNumeric_broken _ _ _
  · split
    · exact isNumeric_number _
    · exact isNumeric_broken _ _ _

/-- What stands behind the leading digits is part of a number. -/
theorem scanTail_isNumeric (l : Literal) (s : Bytes) : IsNumeric (scanTail l s).1 := by
  rw [scanTail.eq_def]
  split
  · exact isNumeric_number _
  · split_ifs
    · dsimp only
      split
      · exact isNumeric_broken _ _ _
      · exact isNumeric_broken _ _ _
      · exact isNumeric_number _
      · split
        · exact scanExponent_isNumeric _ _
        · exact isNumeric_number _
    · exact scanExponent_isNumeric _ _
    · exact isNumeric_number _

/-- What begins as a number is one, or is broken. -/
theorem scanNumber_isNumeric (negative : Bool) (s : Bytes) : IsNumeric (scanNumber negative s).1 := by
  rw [scanNumber.eq_def]
  split
  · exact isNumeric_broken _ _ _
  · split_ifs
    · split
      · split
        · exact isNumeric_broken _ _ _
        · exact scanTail_isNumeric _ _
      · exact scanTail_isNumeric _ _
    · exact scanTail_isNumeric _ _
    · exact isNumeric_broken _ _ _

/-- What may be read of a text in one piece. -/
inductive OnePiece (s : Bytes) : Draft × Bytes → Prop where
  | word {p : Draft × Bytes} (h : IsWord p.1) : OnePiece s p
  | number {negative : Bool} {digits : Bytes} (h : negative = false → s = digits) : OnePiece s (scanNumber negative digits)
  | string {tail rest : Bytes} {t : Except SyntaxFault String} (hs : s = byte '"' :: tail)
      (h : scanString none .empty tail = .text t rest) : OnePiece s (.string t, rest)

/-- Words, strings and numbers are read in one piece. -/
theorem scanScalar_onePiece (s : Bytes) : OnePiece s (scanScalar s) := by
  rw [scanScalar.eq_def]
  split
  · exact .word .absent
  · split_ifs with _ _ _ _ _ hquote
    · exact .word (scanName_isWord .null _ _)
    · exact .word (scanName_isWord (.bool true) _ _)
    · exact .word (scanName_isWord (.bool false) _ _)
    · exact .number fun hsign => absurd hsign (by decide)
    · exact .number fun _ => rfl
    · split
      · rename_i hstring
        exact .string (congrArg (· :: _) hquote) hstring
      · exact .word (.broken _ _ _)
    · exact .word (.broken _ _ _)

/-- What is read as such a value is one. -/
theorem valueText_of_scanScalar {s rest : Bytes} {v : FlatValue} (h : scanScalar s = (v.draft, rest)) :
    ∃ text, ValueText v text ∧ s = text ++ rest := by
  have hpiece := scanScalar_onePiece s
  generalize scanScalar s = p at h hpiece
  cases hpiece with
  | word hword =>
    subst h
    cases v <;> cases hword
  | number hs =>
    cases v with
    | text t => exact absurd (congrArg Prod.fst h) (scanNumber_isNumeric _ _).ne_string
    | whole n =>
      obtain ⟨hsign, hdigits, -⟩ := scanNumber_eq_whole h
      exact ⟨_, .whole n, (hs hsign).trans hdigits⟩
  | string hs hstring =>
    obtain ⟨hdraft, rfl⟩ := Prod.mk.inj h
    cases v with
    | whole n => cases hdraft
    | text str =>
      obtain rfl := Draft.string.inj hdraft
      obtain ⟨text, hchars, rfl⟩ := scanString_eq_text_iff.mp hstring
      exact ⟨_, .text (.quoted hchars), by rw [hs]; simp⟩

/-- What is read in one piece is no object. -/
theorem scanScalar_ne_object (s : Bytes) (members : List (Except SyntaxFault String × Draft)) (ending : Ending) :
    (scanScalar s).1 ≠ .object members ending := by
  intro h
  have hpiece := scanScalar_onePiece s
  generalize scanScalar s = p at h hpiece
  cases hpiece with
  | word hword =>
    rw [h] at hword
    cases hword
  | number => exact (scanNumber_isNumeric _ _).ne_object h
  | string => cases h

/-- Such a value is read up to its end. -/
theorem scanScalar_of_valueText {v : FlatValue} {text : Bytes} (h : ValueText v text) {rest : Bytes} (hrest : EndsNumber rest) :
    scanScalar (text ++ rest) = (v.draft, rest) := by
  cases h with
  | text h =>
    cases h with
    | quoted hchars =>
      rw [List.cons_append, List.append_assoc, List.singleton_append, scanScalar, if_neg (by decide), if_neg (by decide),
        if_neg (by decide), if_neg (by decide), if_neg (by decide), if_pos rfl, scanString_eq_text_iff.mpr ⟨_, hchars, rfl⟩]
      rfl
  | whole n =>
    have hlow : (-0x8000000000000000 : Int) ≤ n.toNat := by omega
    have hhigh : (n.toNat : Int) < 0x10000000000000000 := by exact_mod_cast n.toNat_lt
    exact scanScalar_int hlow hhigh hrest

/-- The first byte of such a value is no blank and no bracket. -/
theorem valueText_head {v : FlatValue} {text : Bytes} (h : ValueText v text) :
    ∃ b bytes, text = b :: bytes ∧ isBlank b = false ∧ b ≠ byte '[' ∧ b ≠ byte '{' := by
  cases h with
  | text h =>
    cases h with
    | quoted => exact ⟨_, _, rfl, by decide, by decide, by decide⟩
  | whole n =>
    obtain ⟨b, digits, htext, hb, -, -⟩ := bytesOf_repr_cases n.toNat
    refine ⟨b, digits, htext, ?_, ne_of_isDigit hb (by decide), ne_of_isDigit hb (by decide)⟩
    simp [isBlank, ne_of_isDigit hb (show isDigit 0x20 = false by decide), ne_of_isDigit hb (show isDigit 0x09 = false by decide),
      ne_of_isDigit hb (show isDigit 0x0a = false by decide), ne_of_isDigit hb (show isDigit 0x0d = false by decide)]

/-- A value is read from its text, with blanks in front of it. -/
theorem scanValue_of_valueText (depth : Nat) {fuel : Nat} {front text rest : Bytes} {v : FlatValue} (hfuel : 0 < fuel)
    (hfront : AllBlank front) (h : ValueText v text) (hrest : EndsNumber rest) :
    scanValue fuel depth (front ++ (text ++ rest)) = (v.draft, rest) := by
  obtain ⟨fuel, rfl⟩ := Nat.exists_eq_add_of_le' hfuel
  have hscalar := scanScalar_of_valueText h hrest
  obtain ⟨b, bytes, rfl, hblank, hlist, hobject⟩ := valueText_head h
  rw [List.cons_append] at hscalar ⊢
  rw [scanValue, skipBlank_append_cons hfront hblank]
  simp only
  rw [if_neg hlist, if_neg hobject, hscalar]

/-- Whoever reads a value has its text before them, behind blanks. -/
theorem valueText_of_scanValue {fuel depth : Nat} {s rest : Bytes} {v : FlatValue}
    (h : scanValue fuel depth s = (v.draft, rest)) :
    ∃ front text, AllBlank front ∧ ValueText v text ∧ s = front ++ (text ++ rest) := by
  cases fuel with
  | zero =>
    rw [scanValue] at h
    cases v <;> cases h
  | succ fuel =>
    obtain ⟨front, hfront, hs⟩ := exists_skipBlank s
    rw [scanValue] at h
    dsimp only at h
    generalize skipBlank s = unread at h hs
    subst hs
    split at h
    · cases v <;> cases h
    · rename_i b tail
      split_ifs at h
      · split at h
        · cases v <;> cases h
        · rename_i depth
          have hlist := scanItems_fst fuel depth [] tail
          rw [h] at hlist
          rcases hlist with hlist | ⟨items, ending, hlist⟩ <;> cases v <;> cases hlist
      · split at h
        · cases v <;> cases h
        · rename_i depth
          have hobject := scanMembers_fst fuel depth [] tail
          rw [h] at hobject
          rcases hobject with hobject | ⟨members, ending, hobject⟩ <;> cases v <;> cases hobject
      · obtain ⟨text, htext, hread⟩ := valueText_of_scanScalar h
        exact ⟨front, text, hfront, htext, congrArg (front ++ ·) hread⟩

/-! ## Members -/

/-- A number ends where members go on. -/
theorem endsNumber_members {members : List FlatMember} {text : Bytes} (h : MembersText members text) (rest : Bytes) :
    EndsNumber (text ++ rest) := by
  have hblank : ∀ {front tail : Bytes} {b : UInt8}, AllBlank front →
      (isDigit b = false ∧ b ≠ byte '.' ∧ b ≠ byte 'e' ∧ b ≠ byte 'E') → EndsNumber (front ++ b :: tail) := by
    intro front tail b hfront hb
    cases front with
    | nil => exact endsNumber_cons hb
    | cons c front =>
      have hc := hfront c List.mem_cons_self
      simp only [blanks, List.mem_cons, List.not_mem_nil, or_false] at hc
      rcases hc with rfl | rfl | rfl | rfl <;> exact endsNumber_cons (by decide)
  cases h with
  | close hfront =>
    rw [List.append_assoc]
    exact hblank hfront (by decide)
  | next hfront =>
    rw [List.append_assoc]
    exact hblank hfront (by decide)

/-- A member has a text. -/
theorem length_memberText_pos {m : FlatMember} {text : Bytes} (h : MemberText m text) : 0 < text.length := by
  cases h
  simp

/-- So have the members up to the end. -/
theorem length_membersText_pos {members : List FlatMember} {text : Bytes} (h : MembersText members text) : 0 < text.length := by
  cases h <;> simp

section Steps

variable {fuel depth : Nat} {front s rest : Bytes} {done : List (Except SyntaxFault String × Draft)}

/-- Blanks in front of a member are skipped. -/
theorem scanMembers_blank (hfront : AllBlank front) :
    scanMembers (fuel + 1) depth done (front ++ s) = scanMembers (fuel + 1) depth done s := by
  rw [scanMembers, scanMembers, skipBlank_append hfront]

/-- A member is read behind blanks, its name, a colon and its value. -/
theorem scanMember_of_memberText (depth : Nat) (done : List (Except SyntaxFault String × Draft)) {m : FlatMember} {text : Bytes}
    (h : MemberText m text) (hfuel : 0 < fuel) (hrest : EndsNumber rest) :
    ∃ front tail, AllBlank front ∧ text = front ++ byte '"' :: tail ∧
      scanMember (fuel + 1) depth done (tail ++ rest) = scanMembers fuel depth (m.draft :: done) rest := by
  cases h with
  | @mk name v front name' between behind value hfront hname hbetween hbehind hvalue =>
    cases hname with
    | @quoted chars hchars =>
      refine ⟨front, _, hfront, by rw [List.cons_append], ?_⟩
      have hread := scanValue_of_valueText depth hfuel hbehind hvalue hrest
      have hstring : scanString none .empty (chars ++ byte '"' :: (between ++ byte ':' :: (behind ++ (value ++ rest)))) =
          .text (.ok name) (between ++ byte ':' :: (behind ++ (value ++ rest))) := scanString_eq_text_iff.mpr ⟨chars, hchars, rfl⟩
      simp only [List.append_assoc, List.cons_append, List.nil_append]
      rw [scanMember, hstring]
      simp only
      rw [skipBlank_append_cons hbetween (by decide)]
      simp only
      rw [if_pos trivial, hread]
      rfl

/-- Behind a comma comes the name of the next member. -/
theorem scanMembers_comma (hfront : AllBlank front) (hdone : done ≠ []) {behind : Bytes} (hbehind : AllBlank behind) :
    scanMembers (fuel + 1) depth done (front ++ byte ',' :: (behind ++ byte '"' :: s)) = scanMember fuel depth done s := by
  rw [scanMembers_blank hfront, scanMembers, skipBlank_of_head (by decide)]
  simp only
  rw [if_neg (by decide), if_neg (by simpa using hdone), if_pos trivial, skipBlank_append_cons hbehind (by decide)]
  simp only
  rw [if_pos trivial]

end Steps

/-- The members after the first are read, and the closing brace; each of them takes fuel, and at least as many bytes. -/
theorem scanMembers_of_membersText {members : List FlatMember} {text : Bytes} (h : MembersText members text) (depth : Nat)
    {fuel : Nat} {done : List (Except SyntaxFault String × Draft)} (hdone : done ≠ []) (hfuel : text.length ≤ fuel)
    (rest : Bytes) :
    scanMembers fuel depth done (text ++ rest) = (.object (done.reverse ++ members.map FlatMember.draft) .closed, rest) := by
  induction h generalizing fuel done with
  | @close front hfront =>
    obtain ⟨fuel, rfl⟩ := Nat.exists_eq_add_of_le' (Nat.le_trans (by simp) hfuel : 1 ≤ fuel)
    rw [List.append_assoc, scanMembers_blank hfront, List.singleton_append, scanMembers_close, List.map_nil, List.append_nil]
  | @next front text tail m members hfront hm hrest ih =>
    have hpos := length_membersText_pos hrest
    simp only [List.length_append, List.length_cons] at hfuel
    have hsome := length_memberText_pos hm
    obtain ⟨fuel, rfl⟩ : ∃ n, fuel = n + 2 := ⟨fuel - 2, by omega⟩
    obtain ⟨behind, unread, hbehind, rfl, hmember⟩ := scanMember_of_memberText depth done hm
      (show 0 < fuel by omega) (endsNumber_members hrest rest)
    have hothers := ih (List.cons_ne_nil m.draft done) (show tail.length ≤ fuel by omega)
    simp only [List.append_assoc, List.cons_append]
    rw [scanMembers_comma hfront hdone hbehind, hmember, hothers, List.reverse_cons, List.map_cons, List.append_assoc,
      List.singleton_append]

mutual

/-- What is read as the members after the first is written as they are. -/
theorem membersText_of_scanMembers : (fuel : Nat) → ∀ {depth done s members rest}, done ≠ [] →
    scanMembers fuel depth done s = (.object members .closed, rest) → (∀ m ∈ members, ∃ v : FlatMember, m = v.draft) →
    ∃ more text, members = done.reverse ++ more.map FlatMember.draft ∧ MembersText more text ∧ s = text ++ rest
  | 0, _, _, _, _, _, _, h, _ => by
    rw [scanMembers] at h
    cases h
  | fuel + 1, depth, done, s, members, rest, hdone, h, hflat => by
    obtain ⟨front, hfront, hs⟩ := exists_skipBlank s
    rw [scanMembers] at h
    generalize skipBlank s = unread at h hs
    subst hs
    split at h
    · cases h
    · rename_i b tail
      split_ifs at h with hclose hdone' hquote hcomma
      · obtain ⟨hobject, rfl⟩ := Prod.mk.inj h
        obtain ⟨rfl, -⟩ := Draft.object.inj hobject
        exact ⟨[], _, by rw [List.map_nil, List.append_nil], .close hfront, by rw [hclose]; simp⟩
      · exact absurd (List.isEmpty_iff.mp hdone') hdone
      · exact absurd (List.isEmpty_iff.mp hdone') hdone
      · subst hcomma
        obtain ⟨behind, hbehind, htail⟩ := exists_skipBlank tail
        generalize skipBlank tail = name at h htail
        subst htail
        split at h
        · cases h
        · split at h
          · rename_i hname
            subst hname
            obtain ⟨m, more, text, tail, hmembers, hm, hmore, hsame⟩ := memberText_of_scanMember fuel hbehind h hflat
            exact ⟨m :: more, _, hmembers, .next hfront hm hmore, by rw [hsame]; simp⟩
          · cases h
      · cases h

/-- What is read as a member, and those after it, is written as they are. -/
theorem memberText_of_scanMember : (fuel : Nat) → ∀ {depth done s members rest front}, AllBlank front →
    scanMember fuel depth done s = (.object members .closed, rest) → (∀ m ∈ members, ∃ v : FlatMember, m = v.draft) →
    ∃ m more text tail, members = done.reverse ++ (m :: more).map FlatMember.draft ∧ MemberText m text ∧ MembersText more tail ∧
      front ++ byte '"' :: s = text ++ (tail ++ rest)
  | 0, _, _, _, _, _, _, _, h, _ => by
    rw [scanMember] at h
    cases h
  | fuel + 1, depth, done, s, members, rest, front, hfront, h, hflat => by
    rw [scanMember] at h
    split at h
    · cases h
    · rename_i name unread hname
      obtain ⟨between, hbetween, hunread⟩ := exists_skipBlank unread
      dsimp only at h
      generalize skipBlank unread = colon at h hunread
      subst hunread
      split at h
      · cases h
      · split_ifs at h with hcolon
        · subst hcolon
          rename_i behind
          generalize hvalue : scanValue fuel depth behind = scanned at h
          obtain ⟨d, left⟩ := scanned
          obtain ⟨more, tail, hmembers, hmore, rfl⟩ := membersText_of_scanMembers fuel (List.cons_ne_nil _ _) h hflat
          rw [List.reverse_cons, List.append_assoc, List.singleton_append] at hmembers
          obtain ⟨m, hm⟩ := hflat (name, d) (by rw [hmembers]; simp)
          obtain ⟨rfl, rfl⟩ := Prod.mk.inj hm
          obtain ⟨chars, hchars, rfl⟩ := scanString_eq_text_iff.mp hname
          obtain ⟨gap, value, hgap, htext, rfl⟩ := valueText_of_scanValue hvalue
          exact ⟨m, more, _, tail, hmembers, .mk hfront (.quoted hchars) hbetween hgap htext, hmore, by simp⟩
        · cases h

end

end Scan

/-! ## Objects -/

/-- An object is read behind its opening brace. -/
theorem Draft.ofBytes_of_brace {content tail : Bytes} (h : skipBlank content = byte '{' :: tail) :
    Draft.ofBytes content = scanMembers (4 * content.length + 3) 126 [] tail := by
  rw [Draft.ofBytes, depthLimit, scanValue, h]
  simp only
  rw [if_neg (by decide), if_pos trivial]

/-- What is read as an object has an opening brace. -/
theorem Draft.brace_of_ofBytes {content : Bytes} {members : List (Except SyntaxFault String × Draft)} {ending : Ending}
    (h : (Draft.ofBytes content).1 = .object members ending) : ∃ tail, skipBlank content = byte '{' :: tail := by
  rw [Draft.ofBytes, depthLimit, scanValue] at h
  dsimp only at h
  split at h
  · cases h
  · rename_i b tail hcontent
    split_ifs at h with hlist hobject
    · rcases scanItems_fst (4 * content.length + 3) 126 [] tail with hitems | ⟨items, ending', hitems⟩ <;>
        cases hitems.symm.trans h
    · exact ⟨tail, by rw [hcontent, hobject]⟩
    · exact absurd h (scanScalar_ne_object _ _ _)

/-- A text is read as an object whose members are strings and whole numbers exactly if it begins with one, and no further than its
closing brace. -/
theorem Draft.ofBytes_eq_object_iff {content rest : Bytes} {members : List FlatMember} :
    Draft.ofBytes content = (.object (members.map FlatMember.draft) .closed, rest) ↔
      ∃ front text, AllBlank front ∧ ObjectText members text ∧ content = front ++ (text ++ rest) := by
  have hflat : ∀ m ∈ members.map FlatMember.draft, ∃ v : FlatMember, m = v.draft := by
    intro m hm
    obtain ⟨v, -, rfl⟩ := List.mem_map.mp hm
    exact ⟨v, rfl⟩
  constructor
  · intro h
    obtain ⟨front, hfront, hcontent⟩ := exists_skipBlank content
    obtain ⟨tail, htail⟩ := Draft.brace_of_ofBytes (congrArg Prod.fst h)
    rw [Draft.ofBytes_of_brace htail, scanMembers] at h
    rw [htail] at hcontent
    obtain ⟨gap, hgap, hunread⟩ := exists_skipBlank tail
    generalize skipBlank tail = unread at h hunread
    generalize hdrafts : members.map FlatMember.draft = drafts at h hflat
    subst hunread
    split at h
    · cases h
    · rename_i b unread
      rw [if_pos List.isEmpty_nil] at h
      split_ifs at h with hclose hquote
      · obtain ⟨hobject, rfl⟩ := Prod.mk.inj h
        obtain ⟨rfl, -⟩ := Draft.object.inj hobject
        obtain rfl := List.map_eq_nil_iff.mp hdrafts
        exact ⟨front, _, hfront, .empty hgap, by rw [hcontent, hclose]; simp⟩
      · obtain ⟨m, more, text, behind, hmembers, hm, hmore, hsame⟩ := memberText_of_scanMember _ hgap h hflat
        obtain rfl : members = m :: more := List.map_injective_iff.mpr FlatMember.draft_injective (hdrafts.trans hmembers)
        exact ⟨front, _, hfront, .members hm hmore, by rw [hcontent, hquote, hsame]; simp⟩
      · cases h
  · rintro ⟨front, text, hfront, htext, rfl⟩
    cases htext with
    | @empty gap hgap =>
      have hbrace : skipBlank (front ++ (byte '{' :: (gap ++ [byte '}']) ++ rest)) = byte '{' :: (gap ++ byte '}' :: rest) := by
        rw [List.cons_append, List.append_assoc, skipBlank_append_cons hfront (by decide)]
        rfl
      rw [Draft.ofBytes_of_brace hbrace, scanMembers_blank hgap, scanMembers_close]
      rfl
    | @members text behind m more hm hmore =>
      generalize hcontent : front ++ (byte '{' :: (text ++ behind) ++ rest) = content
      have hlength : behind.length ≤ 4 * content.length + 1 := by
        simp only [← hcontent, List.length_append, List.length_cons]
        omega
      obtain ⟨gap, unread, hgap, rfl, hmember⟩ := scanMember_of_memberText 126 [] hm
        (show 0 < 4 * content.length + 1 from Nat.succ_pos _) (endsNumber_members hmore rest)
      have hbrace : skipBlank content = byte '{' :: (gap ++ byte '"' :: (unread ++ (behind ++ rest))) := by
        rw [← hcontent, List.cons_append, skipBlank_append_cons hfront (by decide)]
        simp
      have hothers := scanMembers_of_membersText hmore 126 (List.cons_ne_nil m.draft []) hlength rest
      rw [Draft.ofBytes_of_brace hbrace, scanMembers_blank hgap, scanMembers_first, hmember, hothers]
      rfl

end Switchboard
