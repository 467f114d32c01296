import Switchboard.Tube.Error

/-!
# Why a call on a service fails
-/

namespace Switchboard

/-- Why a call on a service fails, or its publication. That a thread cannot be started is not among it: threads always start
here. -/
inductive ServiceError where
  | badParcel (fault : ParcelFault)
  | deadObject
  | failedTransaction (text : String)
  | publish (path : String) (e : SystemError)
  | transport (e : TubeError)
  | unknownTransaction (code : UInt32)
deriving Repr

namespace ServiceError

def message : ServiceError → String
  | .badParcel fault => "failed to decode transaction payload: " ++ fault.message
  | .deadObject => "remote object is dead"
  | .failedTransaction text => "transaction failed: " ++ text
  | .publish path e => "failed to publish service at " ++ path ++ ": " ++ e.message
  | .transport e => "transport error: " ++ e.message
  | .unknownTransaction code => "unknown transaction code " ++ toString code

end ServiceError

/-- A connection that is gone means that the object is; any other fault is one of the transport. -/
def TubeError.toService : TubeError → ServiceError
  | .disconnected => .deadObject
  | e => .transport e

end Switchboard
