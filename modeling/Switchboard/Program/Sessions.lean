import Switchboard.Capture.Store
import Switchboard.Text.Quoted

/-!
# Sessions on the command line

A session is given as its user, a colon and its id. The first colon separates the two; the id is whatever follows it.
-/

namespace Switchboard

/-- What is wrong with a session. -/
inductive SessionFault where
  | noColon
  | badUser (e : BadUserNumber)
deriving DecidableEq, Repr

/-- What is said of a session that is refused. -/
def SessionFault.message (arg : String) : SessionFault → String
  | .noColon => "session " ++ quoted arg ++ " is not USER:ID"
  | .badUser e => "session " ++ quoted arg ++ ": " ++ e.message ++ ": " ++ e.fault.message

/-- The text before the first colon, and the text behind it. -/
def splitColon : List Char → Option (List Char × List Char)
  | [] => none
  | c :: rest => if c = ':' then some ([], rest) else (splitColon rest).map fun (user, id) => (c :: user, id)

/-- The user and the id of a session. -/
def parseSession (arg : String) : Except SessionFault (UserId × String) :=
  match splitColon arg.toList with
  | none => .error .noColon
  | some (user, id) =>
    match UserId.ofText (String.ofList user) with
    | .ok user => .ok (user, String.ofList id)
    | .error e => .error (.badUser e)

/-- Adds sessions to a store, in their order. The first that is refused is reported. -/
def SessionStore.addAll (s : SessionStore) : List String → Except (String × SessionFault) SessionStore
  | [] => .ok s
  | arg :: rest =>
    match parseSession arg with
    | .error fault => .error (arg, fault)
    | .ok (user, id) => (s.add user id).addAll rest

end Switchboard
