import Switchboard.Parcel.Basic
import Switchboard.Tube.Error

/-!
# Frames

A message travels as a frame: the length of its text in four bytes, the lowest first, and the text. A text is neither empty nor
longer than 16 MiB. `Frame.encode` writes a frame and `Frame.next` takes one from the front of a stream.
-/

namespace Switchboard

namespace Frame

/-- The longest text of a message, in bytes. -/
def sizeLimit : Nat :=
  16 * 1024 * 1024

/-- The length of a text as it stands in front of it. -/
def header (size : Nat) : List UInt8 :=
  [size.toUInt8, (size / 0x100).toUInt8, (size / 0x10000).toUInt8, (size / 0x1000000).toUInt8]

/-- The length that a header announces. -/
def announced (a b c d : UInt8) : Nat :=
  a.toNat + b.toNat * 0x100 + c.toNat * 0x10000 + d.toNat * 0x1000000

/-- The header of a text, or its refusal when it is too long. -/
def headerOf (text : String) : Except TubeError (List UInt8) :=
  let size := text.utf8ByteSize
  if sizeLimit < size then .error (.messageTooLarge size) else .ok (header size)

/-- The frame of a text. -/
def encode (text : String) : Except TubeError (List UInt8) :=
  (headerOf text).map (· ++ text.toUTF8.toList)

/-- What stands at the front of a stream. -/
inductive Next where
  /-- Not yet a whole frame. -/
  | incomplete
  /-- A header that announces an impossible length; only the header is taken. -/
  | refused (e : TubeError) (rest : List UInt8)
  /-- The text of a frame. -/
  | frame (body rest : List UInt8)
deriving Repr

/-- Takes a list apart after its first `n` members, if it has so many. -/
def splitAt? {α : Type} (n : Nat) (s : List α) : Option (List α × List α) :=
  let (front, rest) := s.splitAt n
  if front.length = n then some (front, rest) else none

/-- Takes a frame from the front of a stream. -/
def next : List UInt8 → Next
  | a :: b :: c :: d :: rest =>
    let size := announced a b c d
    if size = 0 then .refused .emptyBody rest
    else if sizeLimit < size then .refused (.messageTooLarge size) rest
    else
      match splitAt? size rest with
      | some (body, rest) => .frame body rest
      | none => .incomplete
  | _ => .incomplete

end Frame

/-- Reads the text of a message. -/
def Parcel.ofMessage {α : Type} [Parcel α] (body : List UInt8) : Except TubeError α :=
  (Parcel.ofBytes body).mapError .json

/-- One attempt to receive from a stream: what was received, and what is left of the stream. Nothing is received from a stream
that may still grow into a frame. -/
def Frame.receive? {α : Type} [Parcel α] (stream : List UInt8) : Option (Except TubeError α × List UInt8) :=
  match Frame.next stream with
  | .incomplete => none
  | .refused e rest => some (.error e, rest)
  | .frame body rest => some (Parcel.ofMessage body, rest)

/-- Everything that is received from a stream that has ended: the messages and the faults in their order, `limit` of them at
most. A cut frame at the end is not received. -/
def Frame.receiveAll {α : Type} [Parcel α] : Nat → List UInt8 → List (Except TubeError α)
  | 0, _ => []
  | limit + 1, stream =>
    match Frame.receive? stream with
    | none => [.error .disconnected]
    | some (result, rest) => result :: Frame.receiveAll limit rest

end Switchboard
