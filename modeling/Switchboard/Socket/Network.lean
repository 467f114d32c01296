import Switchboard.Files.Path
import Switchboard.Socket.Path
import Switchboard.Socket.Serving

/-!
# Sockets of one directory

The files of a service directory, the hosts and scripted servers that listen at its sockets, the connections made to them, and
the client's objects. An object has one connection for its transactions and one more for each death link; the link is watched,
and whatever arrives on it, or its end, counts as the death of the service.

What a client has sent is served at once. A client that waits for an answer which nobody is going to send waits forever.

A host keeps an end of each connection besides the one of the handler, for its shutdown. The handler that leaves its loop
therefore leaves the connection open; the host lets go of it when it accepts the next one.
-/

namespace Switchboard

/-- Who listens at a socket. -/
inductive Listener where
  | host (n : Nat)
  | script (n : Nat)
deriving DecidableEq, Repr

/-- What lies in the service directory under a name. -/
inductive FileEntry where
  | socket (l : Listener)
  | file
  | directory
deriving DecidableEq, Repr

/-- A published service. -/
structure Host (σ : Type) where
  name : String
  service : Service σ
  running : Bool

/-- A server that gives prepared answers: to the n-th frame on a connection the n-th answer of that connection, byte for byte.
The frame after the last answer closes the connection. -/
structure Script where
  /-- The answers for the connections that are still to come. -/
  awaited : List (List (List UInt8))
deriving Repr

/-- Who serves a connection. -/
inductive Server where
  | host (n : Nat)
  | script (n : Nat) (answers : List (List UInt8))
deriving Repr

/-- Where the thread stands that serves a connection. -/
inductive HandlerState where
  /-- It serves the frames that arrive. -/
  | serving
  /-- It waits for a service that never returns. -/
  | stuck
  /-- It has left its loop. -/
  | ended
deriving DecidableEq, Repr

/-- A connection, as the host's side knows it. -/
structure Connection where
  server : Server
  /-- The frames that were received, for a scripted server. -/
  seen : List (List UInt8)
  /-- Bytes of the client that are not served yet. -/
  pending : List UInt8
  /-- Bytes for the client that it has not received yet. -/
  arrived : List UInt8
  handler : HandlerState
  /-- Whether the server's side is closed. -/
  closed : Bool
deriving Repr

namespace Connection

/-- A new connection. -/
def fresh (server : Server) : Connection :=
  ⟨server, [], [], [], .serving, false⟩

/-- The connection after its server's side is closed: the handler leaves its loop, unless it is stuck. -/
def close (c : Connection) : Connection :=
  { c with handler := if c.handler = .stuck then .stuck else .ended, closed := true }

/-- Whether a host serves the connection. -/
def isOf (h : Nat) (c : Connection) : Bool :=
  match c.server with
  | .host g => g == h
  | .script .. => false

end Connection

/-- A death link: its connection, who is told, and whether it is still watched. -/
structure DeathLink (ρ : Type) where
  connection : Nat
  recipient : ρ
  watched : Bool
deriving Repr

/-- A client's handle to a published service. -/
structure SocketObject (ρ : Type) where
  name : String
  connection : Nat
  alive : Bool
  links : List (DeathLink ρ)
deriving Repr

/-- The service directory and all that is connected through it. -/
structure Network (σ ρ : Type) where
  /-- The directory, as it is spelled. -/
  dir : String
  /-- Whether the directory exists. -/
  made : Bool
  /-- What lies in the directory, by name. -/
  files : List (String × FileEntry)
  hosts : List (Host σ)
  scripts : List Script
  connections : List Connection
  objects : List (SocketObject ρ)

/-- A network and the state of the services in it. -/
structure Site (σ ρ : Type) where
  backend : σ
  network : Network σ ρ

namespace Network

variable {σ ρ : Type}

def new (dir : String) : Network σ ρ :=
  ⟨dir, false, [], [], [], [], []⟩

/-- The greatest length of the path of a socket, in bytes. -/
def addressLimit : Nat := 107

/-- The names of the sockets. -/
def sockets (n : Network σ ρ) : List (String × FileEntry) :=
  n.files.filter fun (_, e) =>
    match e with
    | .socket _ => true
    | _ => false

/-- What lies at the path of a service. -/
def entryAt? (n : Network σ ρ) (name : String) : Option FileEntry :=
  if isDots (socketName name) then (if n.made then some .directory else none)
  else n.files.lookup (socketName name)

/-- Puts something at the path of a service. -/
def putEntry (name : String) (e : FileEntry) (n : Network σ ρ) : Network σ ρ :=
  { n with made := true, files := (socketName name, e) :: n.files.filter (·.1 != socketName name) }

/-- Removes what lies at the path of a service. -/
def removeEntry (name : String) (n : Network σ ρ) : Network σ ρ :=
  { n with files := n.files.filter (·.1 != socketName name) }

/-- Makes the directory, and puts a file or a directory at the path of a service, if an entry can have its name and nothing else
is there. -/
def obstruct (name : String) (e : FileEntry) (n : Network σ ρ) : Bool × Network σ ρ :=
  let n := { n with made := true }
  match n.entryAt? name with
  | none => if isEntryName (socketName name) then (true, n.putEntry name e) else (false, n)
  | some old => (decide (old = .file ∧ e = .file), n)

def addConnection (server : Server) (n : Network σ ρ) : Nat × Network σ ρ :=
  (n.connections.length, { n with connections := n.connections ++ [.fresh server] })

/-- Closes some of the connections. -/
def closeAll (p : Connection → Bool) (n : Network σ ρ) : Network σ ρ :=
  { n with connections := n.connections.map fun c => if p c then c.close else c }

/-- Whether a host accepts connections. -/
def isRunning (n : Network σ ρ) (h : Nat) : Bool :=
  (n.hosts[h]?).any (·.running)

/-- A host accepts a connection, and lets go of those whose handlers have left their loops. -/
def accept (h : Nat) (n : Network σ ρ) : Nat × Network σ ρ :=
  (n.closeAll fun c => c.isOf h && c.handler == .ended).addConnection (.host h)

/-- Connects to a socket. -/
def connect (name : String) (n : Network σ ρ) : Except SystemError Nat × Network σ ρ :=
  if hasNul (socketPath n.dir name) then (.error .nulInAddress, n)
  else if addressLimit < (socketPath n.dir name).utf8ByteSize then (.error .pathTooLong, n)
  else
    match n.entryAt? name with
    | none => (.error .notFound, n)
    | some .file | some .directory => (.error .connectionRefused, n)
    | some (.socket (.host h)) =>
      if n.isRunning h then
        let (c, n) := n.accept h
        (.ok c, n)
      else (.error .connectionRefused, n)
    | some (.socket (.script s)) =>
      match n.scripts[s]? with
      | some ⟨answers :: awaited⟩ =>
        let (c, n) := n.addConnection (.script s answers)
        (.ok c, { n with scripts := n.scripts.set s ⟨awaited⟩ })
      | _ => (.error .connectionRefused, n)

def updateConnection (c : Nat) (f : Connection → Connection) (n : Network σ ρ) : Network σ ρ :=
  { n with connections := n.connections.modify c f }

def updateObject (b : Nat) (f : SocketObject ρ → SocketObject ρ) (n : Network σ ρ) : Network σ ρ :=
  { n with objects := n.objects.modify b f }

/-- The connections of a scripted server, in the order in which they were accepted. -/
def scripted (n : Network σ ρ) (server : Nat) : List Nat :=
  (List.range n.connections.length).filter fun c =>
    (n.connections[c]?).any fun k =>
      match k.server with
      | .script s _ => s == server
      | .host _ => false

/-- Whether a watched link has come to its end: something arrived on it, or it was closed. -/
def hasEnded (n : Network σ ρ) (l : DeathLink ρ) : Bool :=
  l.watched &&
    match n.connections[l.connection]? with
    | none => false
    | some k =>
      k.closed || match Frame.next k.arrived with
        | .incomplete => false
        | _ => true

/-- The object after the links that ended have been noticed. -/
def notice (n : Network σ ρ) (o : SocketObject ρ) : SocketObject ρ :=
  { o with
    alive := o.alive && !o.links.any (hasEnded n)
    links := o.links.map fun l => if hasEnded n l then { l with watched := false } else l }

end Network

namespace Connection

/-- The connection after its handler served what was pending; there is no outcome if the service never returns. -/
def attended (outcome : Option Served) (c : Connection) : Connection :=
  match outcome with
  | none => { c with pending := [], handler := .stuck }
  | some served =>
    { c with
      arrived := c.arrived ++ served.answers.flatten
      pending := served.left.getD []
      handler := if served.left.isSome then .serving else .ended }

/-- A scripted server takes the frames that have arrived. The fuel is the number of answers and one. -/
def followScript (n : Nat) : Nat → List (List UInt8) → Connection → Connection
  | 0, _, c => c
  | fuel + 1, answers, c =>
    match Frame.next c.pending with
    | .incomplete => { c with server := .script n answers }
    | .refused _ _ => c.close
    | .frame body rest =>
      let c := { c with seen := c.seen ++ [body], pending := rest }
      match answers with
      | [] => { c with server := .script n [] }.close
      | answer :: answers =>
        followScript n fuel answers { c with server := .script n answers, arrived := c.arrived ++ answer }

end Connection

namespace Site

variable {σ ρ : Type}

/-- Changes the network. -/
def change (f : Network σ ρ → Network σ ρ) : Act (Site σ ρ) Unit :=
  Act.modify fun s => { s with network := f s.network }

@[simp] theorem run_change (f : Network σ ρ → Network σ ρ) (s : Site σ ρ) :
    (change f).run s = ⟨some (), { s with network := f s.network }, []⟩ := rfl

/-- Does something on the network. -/
def onNetwork {α : Type} (f : Network σ ρ → α × Network σ ρ) : Act (Site σ ρ) α :=
  Act.update fun s => ((f s.network).1, { s with network := (f s.network).2 })

@[simp] theorem run_onNetwork {α : Type} (f : Network σ ρ → α × Network σ ρ) (s : Site σ ρ) :
    (onNetwork f).run s = ⟨some (f s.network).1, { s with network := (f s.network).2 }, []⟩ := rfl

/-- Does something on the state of the services. -/
def onBackend {α : Type} (x : Act σ α) : Act (Site σ ρ) α :=
  Act.within (·.backend) (fun b s => { s with backend := b }) x

@[simp] theorem run_onBackend {α : Type} (x : Act σ α) (s : Site σ ρ) :
    (onBackend x).run s = ⟨(x.run s.backend).value, { s with backend := (x.run s.backend).state }, (x.run s.backend).log⟩ := rfl

/-- The server of a connection serves what has arrived, on a thread of its own. A handler whose service never returns serves
nothing more, and neither does one that met a frame it refuses; in both cases the connection stays open. -/
def attend (c : Nat) : Act (Site σ ρ) Unit := do
  let s ← Act.get
  match s.network.connections[c]? with
  | none => pure ()
  | some k =>
    if k.handler ≠ .serving then pure ()
    else
      match k.server with
      | .script n answers =>
        change (·.updateConnection c (Connection.followScript n (answers.length + 1) answers))
      | .host h =>
        match s.network.hosts[h]? with
        | none => pure ()
        | some host =>
          let outcome ← Act.elsewhere (onBackend (serve host.service k.pending))
          change (·.updateConnection c (Connection.attended outcome))

/-- Writes bytes. Nothing can be written on a connection that is closed. -/
def write (c : Nat) (bytes : List UInt8) : Act (Site σ ρ) (Except TubeError Unit) := do
  let s ← Act.get
  if (s.network.connections[c]?).all (·.closed) then pure (.error .disconnected)
  else do
    change (·.updateConnection c fun k => { k with pending := k.pending ++ bytes })
    attend c
    pure (.ok ())

/-- Sends a request. -/
def send (c : Nat) (request : HostRequest) : Act (Site σ ρ) (Except TubeError Unit) := do
  match Frame.encode (Parcel.toText request) with
  | .error e => pure (.error e)
  | .ok frame => write c frame

/-- Receives an answer; waits forever on a connection that is open and on which nothing comes. -/
def receive (c : Nat) : Act (Site σ ρ) (Except TubeError HostReply) := do
  let s ← Act.get
  match s.network.connections[c]? with
  | none => pure (.error .disconnected)
  | some k =>
    match (Frame.receive? k.arrived : Option (Except TubeError HostReply × List UInt8)) with
    | some (result, rest) => do
      change (·.updateConnection c fun k => { k with arrived := rest })
      pure result
    | none => if k.closed then pure (.error .disconnected) else Act.hang

/-- A request and its answer. -/
def exchange (c : Nat) (request : HostRequest) : Act (Site σ ρ) (Except ServiceError HostReply) := do
  match ← send c request with
  | .error e => pure (.error e.toService)
  | .ok () => do
    match ← receive c with
    | .error e => pure (.error e.toService)
    | .ok reply => pure (.ok reply)

/-- A transaction on a client's object. -/
def transact (b : Nat) : Service (Site σ ρ) :=
  fun code data => do
    let s ← Act.get
    match s.network.objects[b]? with
    | none => pure (.error .deadObject)
    | some o =>
      if !o.alive then pure (.error .deadObject)
      else do
        match ← exchange o.connection (.transact code data) with
        | .error e => pure (.error e)
        | .ok reply => pure reply.result

/-- Links a recipient to the death of the service behind a client's object, over a connection of its own. -/
def link (b : Nat) (r : ρ) : Act (Site σ ρ) (Except ServiceError Unit) := do
  let s ← Act.get
  match s.network.objects[b]? with
  | none => pure (.error .deadObject)
  | some o =>
    if !o.alive then pure (.error .deadObject)
    else do
      match ← onNetwork (·.connect o.name) with
      | .error _ => pure (.error .deadObject)
      | .ok c => do
        match ← exchange c .linkToDeath with
        | .error e => pure (.error e)
        | .ok .linked => do
          change (·.updateObject b fun o => { o with links := o.links ++ [⟨c, r, true⟩] })
          pure (.ok ())
        | .ok other =>
          pure (.error (.failedTransaction ("unexpected reply to link request: " ++ other.described)))

/-- Looks a service up: a client's object on a new connection. -/
def lookup (name : String) : Act (Site σ ρ) (Option Nat) := do
  match ← onNetwork (·.connect name) with
  | .error e => do
    let s ← Act.get
    let e := TubeError.connect (socketPath s.network.dir name) e
    Act.log .warn ("service " ++ name ++ " not available: " ++ e.message)
    pure none
  | .ok c =>
    onNetwork fun n =>
      (some n.objects.length,
        { n with objects := n.objects ++ [⟨name, c, true, []⟩] })

/-- Publishes a service, in place of a stale socket or file. -/
def publish (name : String) (service : Service σ) : Act (Site σ ρ) (Except ServiceError Nat) := do
  change fun n => { n with made := true }
  let s ← Act.get
  let path := socketPath s.network.dir name
  let refused (e : SystemError) : Act (Site σ ρ) (Except ServiceError Nat) := pure (.error (.publish path e))
  if hasNul path then refused .nulInPath
  else if pathLimit < path.utf8ByteSize ∨ partLimit < (socketName name).utf8ByteSize then refused .nameTooLong
  else
    match s.network.entryAt? name with
    | some .directory => refused .isDirectory
    | old => do
      if old.isSome then do
        Act.log .warn ("replacing stale socket " ++ path)
        change (·.removeEntry name)
      if Network.addressLimit < path.utf8ByteSize then refused .pathTooLong
      else do
        let h := s.network.hosts.length
        change fun n =>
          { n.putEntry name (.socket (.host h)) with hosts := n.hosts ++ [⟨name, service, true⟩] }
        Act.log .info ("published " ++ name ++ " at " ++ path)
        pure (.ok h)

/-- Shuts a host down: its connections are closed and its socket is removed. Its loop is woken through its own socket; if that
is not there any more, somebody else may be woken, and the shutdown waits forever. So it does for a handler that is stuck. -/
def shutdown (h : Nat) : Act (Site σ ρ) Unit := do
  let s ← Act.get
  match s.network.hosts[h]? with
  | none => pure ()
  | some host =>
    if !host.running then pure ()
    else if s.network.entryAt? host.name ≠ some (.socket (.host h)) then do
      let _ ← onNetwork (·.connect host.name)
      Act.hang
    else do
      change fun n =>
        { n.closeAll (·.isOf h) with
          hosts := n.hosts.modify h fun host => { host with running := false } }
      if s.network.connections.any fun c => c.isOf h && c.handler == .stuck then Act.hang
      else do
        change (·.removeEntry host.name)
        Act.log .info (host.name ++ " shut down")

/-- A scripted server takes the socket of a name. -/
def listen (name : String) (connections : List (List (List UInt8))) : Act (Site σ ρ) Nat :=
  onNetwork fun n =>
    (n.scripts.length,
      { n.putEntry name (.socket (.script n.scripts.length)) with scripts := n.scripts ++ [⟨connections⟩] })

/-- The watchers notice the links that have come to their end; returns who is to be told. -/
def watch : Act (Site σ ρ) (List ρ) :=
  onNetwork fun n =>
    (n.objects.flatMap fun o => (o.links.filter n.hasEnded).map (·.recipient),
      { n with objects := n.objects.map n.notice })

/-- Drops a client's object: its links are not watched any more. -/
def dropObject (b : Nat) : Act (Site σ ρ) Unit :=
  change (·.updateObject b fun o => { o with links := o.links.map fun l => { l with watched := false } })

end Site

end Switchboard
