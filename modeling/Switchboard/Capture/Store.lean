import Switchboard.Capture.Service

/-!
# A store of sessions

The pending sessions of each user, the users in the order of their numbers and the sessions of a user in the order in which they
were added. Whoever says "the current user" means the current user of the store; whoever says "all" means everybody.
-/

namespace Switchboard

/-- Pending sessions by user, and the flag of the service. -/
structure SessionStore where
  current : UserId
  sessions : List (UserId × List String)
  allowed : Bool
deriving DecidableEq, Repr

namespace SessionStore

/-- A store without sessions. -/
def new (current : UserId) : SessionStore :=
  ⟨current, [], false⟩

/-- The user who is meant. -/
def resolve (s : SessionStore) (user : UserId) : UserId :=
  if user = .current then s.current else user

/-- Adds a session to the row of its user. -/
def insert (user : UserId) (id : String) : List (UserId × List String) → List (UserId × List String)
  | [] => [(user, [id])]
  | (other, ids) :: rest =>
    if user = other then (other, ids ++ [id]) :: rest
    else if user.number.toInt < other.number.toInt then (user, [id]) :: (other, ids) :: rest
    else (other, ids) :: insert user id rest

def add (s : SessionStore) (user : UserId) (id : String) : SessionStore :=
  { s with sessions := insert (s.resolve user) id s.sessions }

/-- Whether a row belongs to the user who is meant. -/
def concerns (s : SessionStore) (user : UserId) (row : UserId × List String) : Bool :=
  s.resolve user = .all || row.1 = s.resolve user

/-- The sessions of a user. -/
def collect (s : SessionStore) (user : UserId) : List String :=
  (s.sessions.filter (s.concerns user)).flatMap (·.2)

/-- The store without the sessions of a user. -/
def remove (s : SessionStore) (user : UserId) : SessionStore :=
  { s with sessions := s.sessions.filter fun row => !s.concerns user row }

/-- The service of the store that is the state. -/
def service : CaptureService SessionStore where
  list user := do
    let s ← Act.get
    pure (.answered 0 ⟨some (s.collect user)⟩)
  destroy user := do
    let s ← Act.get
    Act.modify (·.remove user)
    Act.log .info ("destroyed " ++ toString (s.collect user).length ++ " sessions for user " ++ user.text)
    pure (.answered 0 ⟨none⟩)
  allowed := do
    let s ← Act.get
    pure s.allowed
  setAllowed b := Act.modify fun s => { s with allowed := b }

end SessionStore

end Switchboard
