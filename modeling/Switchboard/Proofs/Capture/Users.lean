import Mathlib
import Switchboard.Program.Sessions
import Switchboard.Proofs.Text.Integer

/-!
# Users and sessions as they are typed

A user is typed as one of three words or as a number of 32 bits, and nothing else names one (`NamesUser`). A text that names
none is refused with what is first wrong with it as a number. A session is typed as a user, a colon and an id: the first colon
parts the two, whatever the id is.

`users_law` says so of all texts, and that the user and the id of a session are read back from their text.
-/

namespace Switchboard

/-- The text names the user of that number. -/
inductive NamesUser (text : String) : Int → Prop where
  | all (h : text = "all") : NamesUser text (-1)
  | current (h : text = "current") : NamesUser text (-2)
  | cur (h : text = "cur") : NamesUser text (-2)
  | number {sign : Sign} {digits : List Char} (h : Signed text.toList sign digits) (hsome : digits ≠ [])
    (hdigits : AllDigits digits) (hlow : -2 ^ 31 ≤ sign.apply (decimalValue digits))
    (hhigh : sign.apply (decimalValue digits) ≤ 2 ^ 31 - 1) : NamesUser text (sign.apply (decimalValue digits))

/-- The words that name a user. -/
def userWords : List String :=
  ["all", "current", "cur"]

/-- A magnitude is within the limit of its sign exactly if its number is one of 32 bits. -/
theorem Sign.le_limit_iff (sign : Sign) (n : Nat) :
    n ≤ sign.limit 0x7fffffff ↔ -2 ^ 31 ≤ sign.apply n ∧ sign.apply n ≤ 2 ^ 31 - 1 := by
  cases sign <;> simp only [Sign.limit, Sign.apply] <;> omega

namespace UserId

variable {text : String}

/-- The two words name users of their own. -/
theorem ofText_of_word (h : text ∈ userWords) :
    ofText text = .ok (if text = "all" then ⟨-1⟩ else ⟨-2⟩) := by
  simp only [userWords, List.mem_cons, List.not_mem_nil, or_false] at h
  rcases h with rfl | rfl | rfl <;> rfl

/-- Every other text is a number, or nothing. -/
theorem ofText_of_other (h : text ∉ userWords) :
    ofText text =
      match readInt 0x7fffffff text with
      | .ok n => .ok ⟨Int32.ofInt n⟩
      | .error fault => .error ⟨text, fault⟩ := by
  simp only [userWords, List.mem_cons, List.not_mem_nil, or_false, not_or] at h
  cases hread : readInt 0x7fffffff text <;> rw [ofText, if_neg h.1, if_neg (not_or.mpr h.2), hread]

/-- Digits do not make a word. -/
theorem not_mem_userWords {sign : Sign} {digits : List Char} (h : Signed text.toList sign digits) (hdigits : AllDigits digits) :
    text ∉ userWords := by
  intro hword
  have hbare : ∀ (word : String) {c : Char} {cs : List Char}, word.toList = c :: cs → c ≠ '+' → c ≠ '-' →
      c.isDigit = false → text ≠ word := by
    rintro word c cs hword hplus hminus hc rfl
    have hword' : Signed text.toList .none (c :: cs) := by
      rw [hword]
      exact .none (by simpa using hplus) (by simpa using hminus)
    obtain ⟨-, rfl⟩ := h.unique hword'
    exact absurd (hdigits c List.mem_cons_self) (by simp [hc])
  simp only [userWords, List.mem_cons, List.not_mem_nil, or_false] at hword
  rcases hword with hword | hword | hword
  · exact hbare "all" rfl (by decide) (by decide) (by decide) hword
  · exact hbare "current" rfl (by decide) (by decide) (by decide) hword
  · exact hbare "cur" rfl (by decide) (by decide) (by decide) hword

/-- A text is accepted exactly if it names a user, and as that user. -/
theorem ofText_eq_ok_iff {n : Int} : (∃ user, ofText text = .ok user ∧ user.number.toInt = n) ↔ NamesUser text n := by
  constructor
  · rintro ⟨user, huser, rfl⟩
    by_cases hword : text ∈ userWords
    · rw [ofText_of_word hword] at huser
      obtain rfl := Except.ok.inj huser
      simp only [userWords, List.mem_cons, List.not_mem_nil, or_false] at hword
      rcases hword with rfl | rfl | rfl
      · exact .all rfl
      · exact .current rfl
      · exact .cur rfl
    · rw [ofText_of_other hword] at huser
      split at huser
      · rename_i m hread
        obtain rfl := Except.ok.inj huser
        obtain ⟨sign, digits, hsigned⟩ := exists_signed text.toList
        obtain ⟨hsome, hdigits, hlimit, rfl⟩ := (readInt_eq_ok_iff hsigned).mp hread
        obtain ⟨hlow, hhigh⟩ := (sign.le_limit_iff _).mp hlimit
        rw [Int32.toInt_ofInt_of_le hlow (Int.lt_of_le_sub_one hhigh)]
        exact .number hsigned hsome hdigits hlow hhigh
      · cases huser
  · intro h
    cases h with
    | all h => exact ⟨⟨-1⟩, h ▸ ofText_of_word (by decide), rfl⟩
    | current h => exact ⟨⟨-2⟩, h ▸ ofText_of_word (by decide), rfl⟩
    | cur h => exact ⟨⟨-2⟩, h ▸ ofText_of_word (by decide), rfl⟩
    | number hsigned hsome hdigits hlow hhigh =>
      rename_i sign digits
      have hread := (readInt_eq_ok_iff hsigned).mpr ⟨hsome, hdigits, (sign.le_limit_iff _).mpr ⟨hlow, hhigh⟩, rfl⟩
      refine ⟨⟨Int32.ofInt (sign.apply (decimalValue digits))⟩, ?_, ?_⟩
      · rw [ofText_of_other (not_mem_userWords hsigned hdigits), hread]
      · exact Int32.toInt_ofInt_of_le hlow (Int.lt_of_le_sub_one hhigh)

/-- A text that is refused is reported as it is, with what is first wrong with it. -/
theorem ofText_eq_error_iff {e : BadUserNumber} :
    ofText text = .error e ↔ e.text = text ∧ text ∉ userWords ∧ FirstOffence (2 ^ 31 - 1) text.toList e.fault := by
  by_cases hword : text ∈ userWords
  · rw [ofText_of_word hword]
    exact iff_of_false nofun fun h => h.2.1 hword
  · rw [ofText_of_other hword]
    have hlimit : (2 ^ 31 - 1 : Nat) = 0x7fffffff := rfl
    rw [hlimit, ← readInt_eq_error_iff]
    obtain ⟨text', fault⟩ := e
    cases readInt 0x7fffffff text with
    | ok n => simp
    | error other => simp [hword, eq_comm]

/-- The text of a user is its number: a minus for one below zero, and digits without a zero in front. -/
theorem signed_text (u : UserId) :
    ∃ sign n, Signed u.text.toList sign (Nat.toDigits 10 n) ∧ sign.apply n = u.number.toInt := by
  rw [text]
  cases hu : u.number.toInt with
  | ofNat n =>
    refine ⟨.none, n, ?_, rfl⟩
    have htext : (toString (Int.ofNat n)).toList = Nat.toDigits 10 n := Nat.toList_repr
    have hdigit : ∀ c ∈ (Nat.toDigits 10 n).head?, c.isDigit = true := fun c hc =>
      Nat.isDigit_of_mem_toDigits (by decide) (by decide) (List.mem_of_mem_head? hc)
    rw [htext]
    refine .none (fun hplus => ?_) fun hminus => ?_
    · exact absurd (hdigit _ hplus) (by decide)
    · exact absurd (hdigit _ hminus) (by decide)
  | negSucc n =>
    refine ⟨.minus, n + 1, ?_, rfl⟩
    have htext : (toString (Int.negSucc n)).toList = '-' :: Nat.toDigits 10 (n + 1) := by
      rw [show toString (Int.negSucc n) = "-" ++ (n + 1).repr from rfl, String.toList_append, Nat.toList_repr]
      rfl
    exact htext ▸ .minus _

/-- A number is written in digits. -/
theorem allDigits_toDigits (n : Nat) : AllDigits (Nat.toDigits 10 n) :=
  fun _ hc => Nat.isDigit_of_mem_toDigits (by decide) (by decide) hc

/-- A user is read back from its text. -/
theorem ofText_text (u : UserId) : ofText u.text = .ok u := by
  obtain ⟨sign, n, hsigned, hnumber⟩ := u.signed_text
  have hvalue : decimalValue (Nat.toDigits 10 n) = n := Nat.ofDigitChars_ten_toDigits
  have hlow : -2 ^ 31 ≤ sign.apply n := hnumber ▸ u.number.le_toInt
  have hhigh : sign.apply n ≤ 2 ^ 31 - 1 := hnumber ▸ Int.le_sub_one_of_lt u.number.toInt_lt
  have hnames : NamesUser u.text (sign.apply (decimalValue (Nat.toDigits 10 n))) :=
    .number hsigned Nat.toDigits_ne_nil (allDigits_toDigits n) (by rwa [hvalue]) (by rwa [hvalue])
  obtain ⟨other, hother, hsame⟩ := ofText_eq_ok_iff.mpr hnames
  rw [hvalue, hnumber] at hsame
  have hnumbers : other.number = u.number := Int32.toInt_inj.mp hsame
  exact hother.trans (congrArg Except.ok (congrArg UserId.mk hnumbers))

/-- No user has a colon in its text. -/
theorem colon_not_mem_text (u : UserId) : ':' ∉ u.text.toList := by
  obtain ⟨sign, n, hsigned, -⟩ := u.signed_text
  have hdigits : ':' ∉ Nat.toDigits 10 n := fun hcolon => absurd (allDigits_toDigits n ':' hcolon) (by decide)
  generalize u.text.toList = cs at hsigned
  cases hsigned with
  | plus | minus => simpa using hdigits
  | none => exact hdigits

end UserId

/-! ## Sessions -/

/-- Nothing is parted that has no colon. -/
theorem splitColon_eq_none_iff {cs : List Char} : splitColon cs = none ↔ ':' ∉ cs := by
  induction cs with
  | nil => simp [splitColon]
  | cons c cs ih =>
    rw [splitColon]
    by_cases hc : c = ':'
    · simp [hc]
    · rw [if_neg hc, Option.map_eq_none_iff, ih, List.mem_cons, not_or]
      exact (and_iff_right fun h => hc h.symm).symm

/-- The first colon parts a text. -/
theorem splitColon_eq_some_iff {cs user id : List Char} :
    splitColon cs = some (user, id) ↔ cs = user ++ ':' :: id ∧ ':' ∉ user := by
  induction cs generalizing user with
  | nil => simp [splitColon]
  | cons c cs ih =>
    rw [splitColon]
    by_cases hc : c = ':'
    · subst hc
      cases user with
      | nil => simp [eq_comm]
      | cons d user => simp +contextual [eq_comm]
    · rw [if_neg hc]
      cases user with
      | nil => simp [hc]
      | cons d user =>
        simp only [Option.map_eq_some_iff, Prod.exists, Prod.mk.injEq, List.cons.injEq, List.cons_append, List.mem_cons, not_or]
        constructor
        · rintro ⟨user', id', hsplit, ⟨rfl, rfl⟩, rfl⟩
          obtain ⟨rfl, hcolon⟩ := ih.mp hsplit
          exact ⟨⟨rfl, rfl⟩, fun h => hc h.symm, hcolon⟩
        · rintro ⟨⟨rfl, rfl⟩, -, hcolon⟩
          exact ⟨user, id, ih.mpr ⟨rfl, hcolon⟩, ⟨rfl, rfl⟩, rfl⟩

/-- A session is its user in front of the first colon, and its id behind it. -/
structure Session.Parts (arg name id : String) : Prop where
  text : arg = name ++ ":" ++ id
  first : ':' ∉ name.toList

/-- Parts around the first colon are found by splitting at it. -/
theorem splitColon_of_parts {arg name id : String} (h : Session.Parts arg name id) :
    splitColon arg.toList = some (name.toList, id.toList) := by
  refine splitColon_eq_some_iff.mpr ⟨?_, h.first⟩
  rw [h.text, String.toList_append, String.toList_append, List.append_assoc]
  rfl

/-- A text with a colon has such parts. -/
theorem exists_parts {arg : String} (h : ':' ∈ arg.toList) : ∃ name id, Session.Parts arg name id := by
  cases hsplit : splitColon arg.toList with
  | none => exact absurd h (splitColon_eq_none_iff.mp hsplit)
  | some parts =>
    obtain ⟨user, id⟩ := parts
    obtain ⟨htext, hfirst⟩ := splitColon_eq_some_iff.mp hsplit
    exact ⟨String.ofList user, String.ofList id, by simp [← String.toList_inj, htext], by rwa [String.toList_ofList]⟩

/-- A session is read by its parts. -/
theorem parseSession_of_parts {arg name id : String} (h : Session.Parts arg name id) :
    parseSession arg =
      match UserId.ofText name with
      | .ok user => .ok (user, id)
      | .error e => .error (.badUser e) := by
  cases huser : UserId.ofText name <;> rw [parseSession, splitColon_of_parts h] <;> simp only [String.ofList_toList, huser]

/-- Without a colon it is refused. -/
theorem parseSession_of_no_colon {arg : String} (h : ':' ∉ arg.toList) : parseSession arg = .error .noColon := by
  rw [parseSession, splitColon_eq_none_iff.mpr h]

/-! ## The law -/

/-- How users and sessions are typed. -/
structure UsersLaw : Prop where
  /-- A text is accepted exactly if it names a user, and as that user. -/
  accepted : ∀ text n, (∃ user, UserId.ofText text = .ok user ∧ user.number.toInt = n) ↔ NamesUser text n
  /-- Any other text is reported as it is, with what is first wrong with it as a number. -/
  refused : ∀ text e, UserId.ofText text = .error e ↔
    e.text = text ∧ text ∉ userWords ∧ FirstOffence (2 ^ 31 - 1) text.toList e.fault
  /-- A session is accepted exactly if it has a colon and a user is accepted in front of the first one. It is of that user, and
  its id is all that follows. -/
  session : ∀ arg user id, parseSession arg = .ok (user, id) ↔
    ∃ name, Session.Parts arg name id ∧ UserId.ofText name = .ok user
  /-- Any other session has no colon, or what stands in front of the first one is refused. -/
  noSession : ∀ arg fault, parseSession arg = .error fault ↔
    (fault = .noColon ∧ ':' ∉ arg.toList) ∨
      ∃ name id e, fault = .badUser e ∧ Session.Parts arg name id ∧ UserId.ofText name = .error e
  /-- A user and an id are read back from their text, whatever the id is. -/
  readBack : ∀ (user : UserId) (id : String), parseSession (user.text ++ ":" ++ id) = .ok (user, id)

/-- The law of users and sessions as they are typed. -/
theorem users_law : UsersLaw := by
  constructor
  case accepted => exact fun _ _ => UserId.ofText_eq_ok_iff
  case refused => exact fun _ _ => UserId.ofText_eq_error_iff
  case session =>
    intro arg user id
    constructor
    · intro h
      by_cases hcolon : ':' ∈ arg.toList
      · obtain ⟨name, id', hparts⟩ := exists_parts hcolon
        rw [parseSession_of_parts hparts] at h
        split at h
        · rename_i huser
          obtain ⟨rfl, rfl⟩ := Prod.mk.inj (Except.ok.inj h)
          exact ⟨name, hparts, huser⟩
        · cases h
      · rw [parseSession_of_no_colon hcolon] at h
        cases h
    · rintro ⟨name, hparts, huser⟩
      rw [parseSession_of_parts hparts, huser]
  case noSession =>
    intro arg fault
    constructor
    · intro h
      by_cases hcolon : ':' ∈ arg.toList
      · obtain ⟨name, id, hparts⟩ := exists_parts hcolon
        rw [parseSession_of_parts hparts] at h
        split at h
        · cases h
        · rename_i e huser
          exact .inr ⟨name, id, e, (Except.error.inj h).symm, hparts, huser⟩
      · rw [parseSession_of_no_colon hcolon] at h
        exact .inl ⟨(Except.error.inj h).symm, hcolon⟩
    · rintro (⟨rfl, hcolon⟩ | ⟨name, id, e, rfl, hparts, huser⟩)
      · exact parseSession_of_no_colon hcolon
      · rw [parseSession_of_parts hparts, huser]
  case readBack =>
    intro user id
    rw [parseSession_of_parts ⟨rfl, user.colon_not_mem_text⟩, user.ofText_text]

-- The digits leave the range in front of what is no digit.
example : UserId.ofText "9999999999x" = .error ⟨"9999999999x", .tooLarge⟩ := by cbv

example : UserId.ofText "999999999x" = .error ⟨"999999999x", .invalidDigit⟩ := by cbv

end Switchboard
