import Switchboard.Parcel.Basic
import Switchboard.Service.Error

/-!
# What client and host say to each other

A client asks for a transaction or for a link to the death of the service; the host answers each request once.
-/

namespace Switchboard

/-- What a client asks of a host. -/
inductive HostRequest where
  | transact (code : UInt32) (data : Json)
  | linkToDeath
deriving Repr

/-- What a host answers. -/
inductive HostReply where
  | reply (value : Json)
  | failed (text : String)
  | unknownTransaction (code : UInt32)
  | linked
deriving Repr

instance : Parcel HostRequest where
  shape := .oneOf <|
    .record "Transact" "struct variant HostRequest::Transact"
      (.cons "code" .required (.int .u32) <| .cons "data" .required .any .nil) <|
      .plain "LinkToDeath" .nil
  toCarrier
    | .transact code data => .inl (code, data, ())
    | .linkToDeath => .inr (.inl ())
  ofCarrier
    | .inl c => .transact c.1 c.2.1
    | .inr (.inl _) => .linkToDeath
  ofCarrier_toCarrier r := by cases r <;> rfl

instance : Parcel HostReply where
  shape := .oneOf <|
    .holding "Reply" .any <| .holding "Failed" (.text "a string") <|
      .holding "UnknownTransaction" (.int .u32) <| .plain "Linked" .nil
  toCarrier
    | .reply v => .inl v
    | .failed s => .inr (.inl s)
    | .unknownTransaction code => .inr (.inr (.inl code))
    | .linked => .inr (.inr (.inr (.inl ())))
  ofCarrier
    | .inl v => .reply v
    | .inr (.inl s) => .failed s
    | .inr (.inr (.inl code)) => .unknownTransaction code
    | .inr (.inr (.inr (.inl _))) => .linked
  ofCarrier_toCarrier r := by cases r <;> rfl

/-- The answer to a transaction: an unknown code is reported as such, any other error by its text. -/
def HostReply.ofResult : Except ServiceError Json → HostReply
  | .ok v => .reply v
  | .error (.unknownTransaction code) => .unknownTransaction code
  | .error e => .failed e.message

/-- What the client makes of the answer to a transaction. -/
def HostReply.result : HostReply → Except ServiceError Json
  | .reply v => .ok v
  | .failed text => .error (.failedTransaction text)
  | .unknownTransaction code => .error (.unknownTransaction code)
  | .linked => .error (.failedTransaction "unexpected link acknowledgement")

/-! ## Answers in messages -/

mutual

/-- A value as it is shown in a message, each part under the name of its kind. -/
def Json.described : Json → String
  | .null => "Null"
  | .bool b => "Bool(" ++ (if b then "true" else "false") ++ ")"
  | .number n => "Number(" ++ n.text ++ ")"
  | .string s => "String(" ++ quoted s ++ ")"
  | .array items => "Array [" ++ ", ".intercalate (describedItems items) ++ "]"
  | .object fields => "Object \x7b" ++ ", ".intercalate (describedFields fields) ++ "\x7d"

def Json.describedItems : List Json → List String
  | [] => []
  | v :: rest => v.described :: Json.describedItems rest

def Json.describedFields : List (String × Json) → List String
  | [] => []
  | (name, v) :: rest => (quoted name ++ ": " ++ v.described) :: Json.describedFields rest

end

def HostReply.described : HostReply → String
  | .reply v => "Reply(" ++ v.described ++ ")"
  | .failed text => "Failed(" ++ quoted text ++ ")"
  | .unknownTransaction code => "UnknownTransaction(" ++ toString code ++ ")"
  | .linked => "Linked"

end Switchboard
