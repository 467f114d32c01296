import Switchboard.Parcel.Fault
import Switchboard.SystemError

/-!
# What may go wrong with a tube
-/

namespace Switchboard

/-- Why a message was not sent or not received. What only a system without descriptors can bring about is not among it: that a
pair of ends or a second handle cannot be made, or that a write or a shutdown fails though the other end is there. -/
inductive TubeError where
  | connect (path : String) (e : SystemError)
  | disconnected
  | json (fault : ParcelFault)
  | messageTooLarge (size : Nat)
  | receive (e : SystemError)
  | emptyBody
deriving Repr

namespace TubeError

def message : TubeError → String
  | .connect path e => "failed to connect to " ++ path ++ ": " ++ e.message
  | .disconnected => "tube was disconnected"
  | .json fault => "failed to serialize/deserialize json from packet: " ++ fault.message
  | .messageTooLarge n => "message of " ++ toString n ++ " bytes exceeds the tube limit"
  | .receive e => "failed to receive packet: " ++ e.message
  | .emptyBody => "Received a message with a zero sized body. This should not happen."

end TubeError

end Switchboard
