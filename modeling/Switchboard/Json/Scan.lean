import Switchboard.Json.Draft

/-!
# Reading a JSON text

From bytes to a draft. The bytes need not be UTF-8: outside strings anything but ASCII is no JSON, and a string is checked when
it is complete. Blanks are the space, the tab, the line feed and the carriage return. `Draft.ofBytes` reads one value and
reports what is left behind it; lists and objects are followed to a depth of 127, and one that lies deeper is passed over.
-/

namespace Switchboard

namespace Scan

abbrev Bytes := List UInt8

/-- The byte of an ASCII character. -/
def byte (c : Char) : UInt8 :=
  c.toNat.toUInt8

def isBlank (b : UInt8) : Bool :=
  b == 0x20 || b == 0x09 || b == 0x0a || b == 0x0d

def skipBlank (s : Bytes) : Bytes :=
  s.dropWhile isBlank

def isDigit (b : UInt8) : Bool :=
  0x30 ≤ b && b ≤ 0x39

def digitValue (b : UInt8) : Nat :=
  b.toNat - 0x30

/-- A break in something that is no string. -/
def broken (whenRead whenSkipped : SyntaxFault) : Draft :=
  .broken whenRead whenSkipped .expectedValue

/-! ## Names -/

/-- Reads the rest of `null`, `true` or `false` after its first letter. -/
def scanName (d : Draft) : Bytes → Bytes → Draft × Bytes
  | [], s => (d, s)
  | _ :: _, [] => (broken .endInValue .endInValue, [])
  | e :: expected, b :: s => if b = e then scanName d expected s else (broken .expectedIdent .expectedIdent, [])

/-! ## Numbers -/

/-- Appends digits to a significand as long as it fits 64 bits, and returns the digits that no longer do. -/
def absorb : Nat → Bytes → Nat × Bytes
  | n, [] => (n, [])
  | n, b :: digits =>
    let next := n * 10 + digitValue b
    if next < 0x10000000000000000 then absorb next digits else (n, b :: digits)

def natOfDigits (digits : Bytes) : Nat :=
  digits.foldl (fun n b => n * 10 + digitValue b) 0

/-- A literal by its parts: the digits before the point, those after it, and the exponent. -/
structure Literal where
  negative : Bool
  whole : Bytes
  fraction : Option Bytes
  exponent : Option Int

/-- The number that a literal is of. Without fraction and exponent it is a whole number if it fits 64 bits, with the exception
of minus zero; digits that no longer fit a 64-bit significand only count for the magnitude. -/
def Literal.number (l : Literal) : Except SyntaxFault Number :=
  let (significand, rest) := absorb 0 l.whole
  let signed (x : Double) : Number := .float (if l.negative then x.neg else x)
  let scaledBy (significand : Nat) (e : Int) : Except SyntaxFault Number :=
    match Double.ofDecimal? significand e with
    | some x => .ok (signed x)
    | none => .error .numberOutOfRange
  match l.fraction, l.exponent with
  | none, none =>
    if rest ≠ [] then scaledBy significand rest.length
    else if !l.negative then .ok (.int significand)
    else if significand = 0 ∨ 0x8000000000000000 < significand then .ok (signed (Double.ofNat significand))
    else .ok (.int (-significand))
  | fraction, exponent =>
    let digits := fraction.getD []
    let (significand, unused) := absorb significand digits
    let kept : Int := digits.length - unused.length
    scaledBy significand (rest.length - kept + exponent.getD 0)

/-- Reads an exponent after its `e`. -/
def scanExponent (l : Literal) (s : Bytes) : Draft × Bytes :=
  let (negative, s) := match s with
    | b :: rest => if b = byte '+' then (false, rest) else if b = byte '-' then (true, rest) else (false, s)
    | [] => (false, s)
  match s with
  | [] => (broken .endInValue .invalidNumber, [])
  | b :: _ =>
    if isDigit b then
      let n := natOfDigits (s.takeWhile isDigit)
      (.number { l with exponent := some (if negative then -n else n) }.number, s.dropWhile isDigit)
    else (broken .invalidNumber .invalidNumber, [])

/-- Reads what follows the digits before the point. -/
def scanTail (l : Literal) (s : Bytes) : Draft × Bytes :=
  match s with
  | [] => (.number l.number, [])
  | b :: rest =>
    if b = byte '.' then
      let digits := rest.takeWhile isDigit
      let l := { l with fraction := some digits }
      match digits, rest.dropWhile isDigit with
      | [], [] => (broken .endInValue .invalidNumber, [])
      | [], _ :: _ => (broken .invalidNumber .invalidNumber, [])
      | _ :: _, [] => (.number l.number, [])
      | _ :: _, e :: after =>
        if e = byte 'e' ∨ e = byte 'E' then scanExponent l after else (.number l.number, e :: after)
    else if b = byte 'e' ∨ b = byte 'E' then scanExponent l rest
    else (.number l.number, s)

/-- Reads a number after its sign. There is no digit after a leading zero. -/
def scanNumber (negative : Bool) (s : Bytes) : Draft × Bytes :=
  match s with
  | [] => (broken .endInValue .invalidNumber, [])
  | b :: rest =>
    if b = byte '0' then
      match rest with
      | d :: _ =>
        if isDigit d then (broken .invalidNumber .invalidNumber, [])
        else scanTail ⟨negative, [b], none, none⟩ rest
      | [] => scanTail ⟨negative, [b], none, none⟩ rest
    else if isDigit b then
      scanTail ⟨negative, s.takeWhile isDigit, none, none⟩ (s.dropWhile isDigit)
    else (broken .invalidNumber .invalidNumber, [])

/-! ## Strings -/

def hexValue (b : UInt8) : Option Nat :=
  if isDigit b then some (b.toNat - 0x30)
  else if 0x61 ≤ b && b ≤ 0x66 then some (b.toNat - 0x57)
  else if 0x41 ≤ b && b ≤ 0x46 then some (b.toNat - 0x37)
  else none

/-- The value of four hexadecimal digits. -/
def hexUnit (a b c d : UInt8) : Option Nat :=
  match hexValue a, hexValue b, hexValue c, hexValue d with
  | some a, some b, some c, some d => some (((a * 16 + b) * 16 + c) * 16 + d)
  | _, _, _, _ => none

def isLeading (unit : Nat) : Bool :=
  0xd800 ≤ unit && unit ≤ 0xdbff

def isTrailing (unit : Nat) : Bool :=
  0xdc00 ≤ unit && unit ≤ 0xdfff

/-- The byte that a one-letter escape stands for. -/
def escapeByte? (b : UInt8) : Option UInt8 :=
  if b = byte '"' ∨ b = byte '\\' ∨ b = byte '/' then some b
  else if b = byte 'b' then some 0x08
  else if b = byte 'f' then some 0x0c
  else if b = byte 'n' then some 0x0a
  else if b = byte 'r' then some 0x0d
  else if b = byte 't' then some 0x09
  else none

/-- A string: its text or what is wrong with its code points, and the rest; or the place where it breaks off, with the fault to
a reader and to one that passes over. -/
inductive Scanned where
  | text (s : Except SyntaxFault String) (rest : Bytes)
  | broken (whenRead whenSkipped : SyntaxFault)

/-- The text of a complete string. -/
def finish (fault : Option SyntaxFault) (done : ByteArray) : Except SyntaxFault String :=
  match fault with
  | some fault => .error fault
  | none =>
    match String.fromUTF8? done with
    | some s => .ok s
    | none => .error .invalidCodePoint

/-- Reads a string after its opening quote; `done` holds its bytes so far and `fault` the first thing found wrong with its code
points. A surrogate that stands alone is such a fault, and the reading goes on behind it. -/
def scanString (fault : Option SyntaxFault) (done : ByteArray) : Bytes → Scanned
  | [] => .broken (fault.getD .endInString) .endInString
  | b :: rest =>
    if b = byte '"' then .text (finish fault done) rest
    else if b = byte '\\' then
      match rest with
      | [] => .broken (fault.getD .endInString) .endInString
      | e :: rest =>
        if e = byte 'u' then
          match rest with
          | a :: b :: c :: d :: rest =>
            match hexUnit a b c d with
            | none => .broken (fault.getD .invalidEscape) .invalidEscape
            | some unit =>
              if isTrailing unit then scanString (fault <|> some .unpairedSurrogate) done rest
              else if isLeading unit then
                match rest with
                | [] => .broken (fault.getD .endInString) .endInString
                | [p] =>
                  if p = byte '\\' then .broken (fault.getD .endInString) .endInString
                  else scanString (fault <|> some .unfinishedSurrogate) done [p]
                | p :: q :: pair =>
                  if p = byte '\\' ∧ q = byte 'u' then
                    match pair with
                    | a :: b :: c :: d :: after =>
                      match hexUnit a b c d with
                      | none => .broken (fault.getD .invalidEscape) .invalidEscape
                      | some second =>
                        if isTrailing second then
                          let point := (unit - 0xd800) * 0x400 + (second - 0xdc00) + 0x10000
                          scanString fault (done ++ (String.singleton (Char.ofNat point)).toUTF8) after
                        else scanString (fault <|> some .unpairedSurrogate) done (p :: q :: a :: b :: c :: d :: after)
                    | _ => .broken (fault.getD .endInString) .endInString
                  else scanString (fault <|> some .unfinishedSurrogate) done (p :: q :: pair)
              else scanString fault (done ++ (String.singleton (Char.ofNat unit)).toUTF8) rest
          | _ => .broken (fault.getD .endInString) .endInString
        else
          match escapeByte? e with
          | some x => scanString fault (done.push x) rest
          | none => .broken (fault.getD .invalidEscape) .invalidEscape
    else if b < 0x20 then .broken (fault.getD .controlCharacter) .controlCharacter
    else scanString fault (done.push b) rest
termination_by s => s.length

/-- Whether a byte stands for itself inside a string. -/
def isPlain (b : UInt8) : Bool :=
  0x20 ≤ b && b != byte '"' && b != byte '\\'

/-- Plain bytes are taken one by one. -/
theorem scanString_append_of_plain {bytes rest : Bytes} (h : ∀ b ∈ bytes, isPlain b = true) (done : ByteArray) :
    scanString none done (bytes ++ rest) = scanString none (bytes.foldl ByteArray.push done) rest := by
  induction bytes generalizing done with
  | nil => rfl
  | cons b bytes ih =>
    have hb := h b List.mem_cons_self
    simp only [isPlain, Bool.and_eq_true, bne_iff_ne, ne_eq, decide_eq_true_eq] at hb
    obtain ⟨⟨hlow, hquote⟩, hback⟩ := hb
    rw [List.cons_append, scanString.eq_def]
    simp only
    rw [if_neg hquote, if_neg hback, if_neg (UInt8.not_lt.mpr hlow)]
    exact ih (fun c hc => h c (List.mem_cons_of_mem b hc)) (done.push b)

/-- A string of plain bytes is read to its closing quote. -/
theorem scanString_of_plain {bytes rest : Bytes} (h : ∀ b ∈ bytes, isPlain b = true) (done : ByteArray) :
    scanString none done (bytes ++ byte '"' :: rest) = .text (finish none (bytes.foldl ByteArray.push done)) rest := by
  rw [scanString_append_of_plain h, scanString.eq_def]
  simp only [↓reduceIte]

/-! ## Values that are not followed -/

/-- What a value is passed over for: a list or an object around it. -/
inductive Bracket where
  | list
  | object
deriving DecidableEq, Repr

def Bracket.closing : Bracket → UInt8
  | .list => byte ']'
  | .object => byte '}'

/-- Reads one value that is neither a list nor an object. -/
def scanScalar (s : Bytes) : Draft × Bytes :=
  match s with
  | [] => (.absent, [])
  | b :: rest =>
    if b = byte 'n' then scanName .null [byte 'u', byte 'l', byte 'l'] rest
    else if b = byte 't' then scanName (.bool true) [byte 'r', byte 'u', byte 'e'] rest
    else if b = byte 'f' then scanName (.bool false) [byte 'a', byte 'l', byte 's', byte 'e'] rest
    else if b = byte '-' then scanNumber true rest
    else if isDigit b then scanNumber false s
    else if b = byte '"' then
      match scanString none ByteArray.empty rest with
      | .text t rest => (.string t, rest)
      | .broken f g => (.broken f g f, [])
    else (broken .expectedValue .expectedValue, [])

/-- Passes over the name of a field and its colon. -/
def passName (s : Bytes) : Except SyntaxFault Bytes :=
  match skipBlank s with
  | [] => .error .endInObject
  | b :: rest =>
    if b = byte '"' then
      match scanString none ByteArray.empty rest with
      | .text _ rest =>
        match skipBlank rest with
        | [] => .error .endInObject
        | c :: rest => if c = byte ':' then .ok rest else .error .expectedColon
      | .broken _ f => .error f
    else .error .keyNotString

/-- Where the passing stands: before a value, right after an opening bracket, or after a value. -/
inductive Place where
  | value
  | opened
  | after
deriving DecidableEq

/-- Passes over what is left of the brackets around the place, innermost first. Each step takes one byte at least, so that the
length of the text is fuel enough. -/
def passFrom : Nat → Place → List Bracket → Bytes → Except SyntaxFault Bytes
  | 0, _, _, _ => .error .endInValue
  | _ + 1, _, [], s => .ok s
  | fuel + 1, .value, brackets, s =>
    match skipBlank s with
    | [] => .error .endInValue
    | b :: rest =>
      if b = byte '[' then passFrom fuel .opened (.list :: brackets) rest
      else if b = byte '{' then passFrom fuel .opened (.object :: brackets) rest
      else
        let (d, rest) := scanScalar (b :: rest)
        match d.skipped with
        | some fault => .error fault
        | none => passFrom fuel .after brackets rest
  | fuel + 1, .opened, bracket :: outer, s =>
    match skipBlank s with
    | [] => .error (if bracket = .list then .endInList else .endInObject)
    | b :: rest =>
      if b = bracket.closing then passFrom fuel .after outer rest
      else if bracket = .list then passFrom fuel .value (bracket :: outer) (b :: rest)
      else
        match passName (b :: rest) with
        | .ok rest => passFrom fuel .value (bracket :: outer) rest
        | .error fault => .error fault
  | fuel + 1, .after, bracket :: outer, s =>
    match skipBlank s with
    | [] => .error (if bracket = .list then .endInList else .endInObject)
    | b :: rest =>
      if b = bracket.closing then passFrom fuel .after outer rest
      else if b = byte ',' then
        if bracket = .list then passFrom fuel .value (bracket :: outer) rest
        else
          match passName rest with
          | .ok rest => passFrom fuel .value (bracket :: outer) rest
          | .error fault => .error fault
      else .error (if bracket = .list then .expectedListCommaOrEnd else .expectedObjectCommaOrEnd)

/-- Passes over a list or an object after its opening bracket. -/
def pass (bracket : Bracket) (s : Bytes) : Except SyntaxFault Bytes :=
  passFrom (2 * s.length + 2) .opened [bracket] s

/-! ## Values -/

/-- The deepest nesting that is followed. -/
def depthLimit : Nat := 127

/-- A break that is the same to every reader. -/
def plainCut (fault : SyntaxFault) (whenFull : SyntaxFault) : Ending :=
  .cut ⟨fault, some fault, whenFull⟩

/-- A list or an object that lies too deep: nothing of it is read, and whatever stands in it is passed over. -/
def tooDeep (bracket : Bracket) (s : Bytes) : Ending × Bytes :=
  let (skipped, rest) : Option SyntaxFault × Bytes := match pass bracket s with
    | .ok rest => (none, rest)
    | .error fault => (some fault, [])
  (.cut ⟨.tooDeep, skipped, .tooDeep⟩, rest)

mutual

/-- Reads one value; `depth` is how many brackets may still be opened. -/
def scanValue : Nat → Nat → Bytes → Draft × Bytes
  | 0, _, _ => (.absent, [])
  | fuel + 1, depth, s =>
    let s := skipBlank s
    match s with
    | [] => (.absent, [])
    | b :: rest =>
      if b = byte '[' then
        match depth with
        | 0 =>
          let (ending, rest) := tooDeep .list rest
          (.list [] ending, rest)
        | depth + 1 => scanItems fuel depth [] rest
      else if b = byte '{' then
        match depth with
        | 0 =>
          let (ending, rest) := tooDeep .object rest
          (.object [] ending, rest)
        | depth + 1 => scanMembers fuel depth [] rest
      else scanScalar s

/-- Reads the items of a list after those of `done`, which come last first. -/
def scanItems : Nat → Nat → List Draft → Bytes → Draft × Bytes
  | 0, _, _, _ => (.absent, [])
  | fuel + 1, depth, done, s =>
    match skipBlank s with
    | [] => (.list done.reverse (plainCut .endInList .endInList), [])
    | b :: rest =>
      if b = byte ']' then (.list done.reverse .closed, rest)
      else if done.isEmpty then
        let (d, rest) := scanValue fuel depth (b :: rest)
        scanItems fuel depth [d] rest
      else if b = byte ',' then
        match skipBlank rest with
        | [] => (.list done.reverse (plainCut .endInValue .trailingCharacters), [])
        | c :: rest =>
          if c = byte ']' then
            (.list done.reverse (.cut ⟨.trailingComma, some .expectedValue, .trailingComma⟩), [])
          else
            let (d, rest) := scanValue fuel depth (c :: rest)
            scanItems fuel depth (d :: done) rest
      else (.list done.reverse (plainCut .expectedListCommaOrEnd .trailingCharacters), [])

/-- Reads the members of an object after those of `done`, which come last first. -/
def scanMembers : Nat → Nat → List (Except SyntaxFault String × Draft) → Bytes → Draft × Bytes
  | 0, _, _, _ => (.absent, [])
  | fuel + 1, depth, done, s =>
    match skipBlank s with
    | [] => (.object done.reverse (plainCut .endInObject .endInObject), [])
    | b :: rest =>
      if b = byte '}' then (.object done.reverse .closed, rest)
      else if done.isEmpty then
        if b = byte '"' then scanMember fuel depth done rest
        else (.object [] (plainCut .keyNotString .expectedValue), [])
      else if b = byte ',' then
        match skipBlank rest with
        | [] => (.object done.reverse (.cut ⟨.endInValue, some .endInObject, .expectedValue⟩), [])
        | c :: rest =>
          if c = byte '"' then scanMember fuel depth done rest
          else
            let fault := if c = byte '}' then .trailingComma else .keyNotString
            (.object done.reverse (.cut ⟨fault, some .keyNotString, .expectedValue⟩), [])
      else (.object done.reverse (plainCut .expectedObjectCommaOrEnd .expectedValue), [])

/-- Reads a member after the opening quote of its name, and the members behind it. A name without a colon has no value. -/
def scanMember : Nat → Nat → List (Except SyntaxFault String × Draft) → Bytes → Draft × Bytes
  | 0, _, _, _ => (.absent, [])
  | fuel + 1, depth, done, s =>
    match scanString none ByteArray.empty s with
    | .broken f g => (.object done.reverse (.cut ⟨f, some g, .expectedValue⟩), [])
    | .text name rest =>
      let missing (fault : SyntaxFault) : Draft × Bytes :=
        (.object ((name, .broken fault fault fault) :: done).reverse (plainCut fault fault), [])
      match skipBlank rest with
      | [] => missing .endInObject
      | c :: rest =>
        if c = byte ':' then
          let (d, rest) := scanValue fuel depth rest
          scanMembers fuel depth ((name, d) :: done) rest
        else missing .expectedColon

end

end Scan

/-- Reads one value from the front of a text. -/
def Draft.ofBytes (s : List UInt8) : Draft × List UInt8 :=
  Scan.scanValue (4 * s.length + 4) Scan.depthLimit s

/-- A text that is a string of plain bytes. -/
theorem Draft.ofBytes_of_plain {bytes : List UInt8} (h : ∀ b ∈ bytes, Scan.isPlain b = true) :
    Draft.ofBytes (Scan.byte '"' :: (bytes ++ [Scan.byte '"'])) =
      (.string (Scan.finish none (bytes.foldl ByteArray.push .empty)), []) := by
  have hblank : Scan.skipBlank (Scan.byte '"' :: (bytes ++ [Scan.byte '"'])) = Scan.byte '"' :: (bytes ++ [Scan.byte '"']) := by
    rw [Scan.skipBlank, List.dropWhile_cons_of_neg (by decide)]
  rw [Draft.ofBytes, Scan.scanValue, hblank]
  simp only
  rw [if_neg (by decide), if_neg (by decide), Scan.scanScalar]
  simp only
  rw [if_neg (by decide), if_neg (by decide), if_neg (by decide), if_neg (by decide), if_neg (by decide)]
  simp only [↓reduceIte, Scan.scanString_of_plain h]

/-- A text that holds one value and nothing more: the value read from its draft by `read`, then the end. -/
def Draft.readWhole {α ε : Type} (read : Draft → Except ε α) (syntaxError : SyntaxFault → ε) (s : List UInt8) : Except ε α :=
  let (d, rest) := Draft.ofBytes s
  match read d with
  | .error e => .error e
  | .ok x => if Scan.skipBlank rest = [] then .ok x else .error (syntaxError .trailingCharacters)

/-- Reads a JSON text. -/
def Json.ofBytes? (s : List UInt8) : Except SyntaxFault Json :=
  Draft.readWhole Draft.value id s

end Switchboard
