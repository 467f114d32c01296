/-!
# Text from bytes

Bytes that need not be UTF-8, shown as text: each longest beginning of a character that goes no further, and each byte that
begins none, is shown as the replacement character.
-/

namespace Switchboard

/-- The character that stands for what is no text. -/
def replacement : Char := '\ufffd'

/-- The bytes that may follow the first byte of a character: how many follow, and the range of the first of them. -/
def followers (b : UInt8) : Option (Nat × UInt8 × UInt8) :=
  if b < 0x80 then some (0, 0x80, 0xbf)
  else if b < 0xc2 then none
  else if b < 0xe0 then some (1, 0x80, 0xbf)
  else if b = 0xe0 then some (2, 0xa0, 0xbf)
  else if b = 0xed then some (2, 0x80, 0x9f)
  else if b < 0xf0 then some (2, 0x80, 0xbf)
  else if b = 0xf0 then some (3, 0x90, 0xbf)
  else if b < 0xf4 then some (3, 0x80, 0xbf)
  else if b = 0xf4 then some (3, 0x80, 0x8f)
  else none

/-- The code point of a first byte without the bits that say how many follow. -/
def firstBits (b : UInt8) (count : Nat) : Nat :=
  match count with
  | 0 => b.toNat
  | 1 => b.toNat % 0x20
  | 2 => b.toNat % 0x10
  | _ => b.toNat % 0x08

/-- Reads bytes after those of `done`, whose characters come last first. `unfinished` is a character of which some bytes are still
to come: its code point so far, how many, and the range of the next one. -/
def decodeLossy (unfinished : Option (Nat × Nat × UInt8 × UInt8)) (done : List Char) : List UInt8 → List Char
  | [] => (if unfinished.isSome then replacement :: done else done).reverse
  | b :: rest =>
    let start (done : List Char) : Option (Nat × Nat × UInt8 × UInt8) × List Char :=
      match followers b with
      | none => (none, replacement :: done)
      | some (0, _, _) => (none, Char.ofNat b.toNat :: done)
      | some (count, lo, hi) => (some (firstBits b count, count, lo, hi), done)
    let (next, done) := match unfinished with
      | none => start done
      | some (point, count, lo, hi) =>
        if lo ≤ b ∧ b ≤ hi then
          let point := point * 0x40 + b.toNat % 0x40
          if count ≤ 1 then (none, Char.ofNat point :: done) else (some (point, count - 1, 0x80, 0xbf), done)
        else start (replacement :: done)
    decodeLossy next done rest

/-- Bytes as text. -/
def textOfBytes (s : List UInt8) : String :=
  String.ofList (decodeLossy none [] s)

end Switchboard
