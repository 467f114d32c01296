import Switchboard.Tube.Frame

/-!
# Two connected ends

A connection has two sides, and each side may have several ends, which share what arrives at it. It is over when either side is
shut down, or has no ends left: nothing can be sent to the other side any more, but what was sent before is still received.

Receiving does not wait here. When less than a whole frame is there, the attempt fails and what was there is lost.
-/

namespace Switchboard

/-- A side of a connection. -/
inductive Side where
  | left
  | right
deriving DecidableEq, Repr

def Side.other : Side → Side
  | .left => .right
  | .right => .left

/-- An end of a connection. -/
structure TubeEnd where
  side : Side
  isOpen : Bool
deriving DecidableEq, Repr

/-- A connection: its ends, what has arrived at each side, and whether it was shut down. -/
structure Duplex where
  ends : List TubeEnd
  atLeft : List UInt8
  atRight : List UInt8
  isShut : Bool
deriving Repr

namespace Duplex

/-- A connection with one end on each side. -/
def pair : Duplex :=
  ⟨[⟨.left, true⟩, ⟨.right, true⟩], [], [], false⟩

/-- What has arrived at a side. -/
def arrived (d : Duplex) : Side → List UInt8
  | .left => d.atLeft
  | .right => d.atRight

def setArrived (s : List UInt8) (d : Duplex) : Side → Duplex
  | .left => { d with atLeft := s }
  | .right => { d with atRight := s }

/-- The side of an end. -/
def side (d : Duplex) (n : Nat) : Side :=
  ((d.ends[n]?).map (·.side)).getD .left

/-- Whether a side has an end left. -/
def hasSide (d : Duplex) (side : Side) : Bool :=
  d.ends.any fun e => e.isOpen && e.side == side

/-- Whether nothing more arrives at a side. -/
def isOver (d : Duplex) (side : Side) : Bool :=
  d.isShut || !d.hasSide side.other

/-- Another end on the side of an end. -/
def clone (n : Nat) (d : Duplex) : Nat × Duplex :=
  (d.ends.length, { d with ends := d.ends ++ [⟨d.side n, true⟩] })

/-- Puts bytes on the wire. -/
def write (n : Nat) (bytes : List UInt8) (d : Duplex) : Except TubeError Unit × Duplex :=
  let side := d.side n
  if d.isOver side then (.error .disconnected, d)
  else (.ok (), d.setArrived (d.arrived side.other ++ bytes) side.other)

/-- Sends a message. One that is too long is not sent at all. -/
def send (n : Nat) (text : String) (d : Duplex) : Except TubeError Unit × Duplex :=
  match Frame.encode text with
  | .error e => (.error e, d)
  | .ok frame => d.write n frame

/-- Receives a message, if one is there. -/
def receive {α : Type} [Parcel α] (n : Nat) (d : Duplex) : Except TubeError α × Duplex :=
  let side := d.side n
  match (Frame.receive? (d.arrived side) : Option (Except TubeError α × List UInt8)) with
  | some (result, rest) => (result, d.setArrived rest side)
  | none => (.error (if d.isOver side then .disconnected else .receive .wouldBlock), d.setArrived [] side)

/-- Shuts the connection down, on both sides. -/
def shut (d : Duplex) : Duplex :=
  { d with isShut := true }

/-- Drops an end. -/
def drop (n : Nat) (d : Duplex) : Duplex :=
  { d with ends := d.ends.modify n fun e => { e with isOpen := false } }

end Duplex

end Switchboard
