import Switchboard.World.Backend
import Switchboard.Power.Facade
import Switchboard.Capture.Shell

/-!
# Scenarios

A scenario is a list of steps in a world: services are registered, published, killed and shut down, and clients look them up,
link to their deaths and call them. The clients' things have numbers in the order in which they appear. `Scenario.perform` says
what a step does and what it answers; after each step the watchers of death links have told their recipients, except for steps
that are too quick for them.
-/

namespace Switchboard

/-- An object under the number that a client has given it. -/
structure Numbered where
  object : ObjectRef
  /-- Whether the client still has it. One that was dropped can no longer be used, but what happens to the object itself is
  still named by the number. -/
  held : Bool
deriving DecidableEq, Repr

/-- A world with the things of its clients, by their numbers. -/
structure Scenario where
  world : World Backend
  objects : List Numbered
  caches : List Nat
  /-- The handles in the order in which they were first seen. -/
  handles : List Handle
  facades : List PowerFacade
  /-- The proxies of capture sessions. -/
  proxies : List ObjectRef

/-- A service of capture sessions that a client talks to. -/
inductive CaptureTarget where
  | store (n : Nat)
  | proxy (n : Nat)
  | silent
  | scripted (code : Int32) (data : ResultData) (allow : Bool)
deriving Repr

/-- A step of a scenario. -/
inductive Step where
  | register (name : String) (offer : Offer)
  | remove (name : String)
  | registerManual (name : String) (offer : Offer)
  | fire (object link : Nat)
  | lookup (registrar : Registrar) (name : String)
  | kill (object : Nat)
  | failTransactions (object : Nat) (on : Bool)
  | failLinks (object : Nat) (on : Bool)
  | link (object : Nat)
  | alive (object : Nat)
  | descriptor (object : Nat)
  | transact (object : Nat) (code : UInt32) (data : Json)
  | dropObject (object : Nat)
  | cache (registrar : Registrar) (name : String)
  | cacheGet (cache : Nat)
  | cacheResolved (cache : Nat)
  | cacheDrop (cache : Nat)
  | handleTransact (handle : Nat) (code : UInt32) (data : Json)
  | facade (registrar : Registrar)
  | connect (facade : Nat)
  | ask (facade : Nat) (q : PowerQuery) (ids : List Int32)
  | askProxy (object : Nat) (q : PowerQuery) (ids : List Int32)
  | askDevice (device : Nat) (q : PowerQuery) (ids : List Int32)
  | store (s : SessionStore)
  | addSession (store : Nat) (user : UserId) (id : String)
  | captureProxy (object : Nat)
  | listSessions (target : CaptureTarget) (user : UserId)
  | destroySessions (target : CaptureTarget) (user : UserId)
  | getAllowed (target : CaptureTarget)
  | setAllowed (target : CaptureTarget) (on : Bool)
  | shell (target : CaptureTarget) (words : List String) (timeout : Nat) (outLimit errLimit : Option Nat)
  | publish (name : String) (offer : Offer)
  | shutdown (host : Nat)
  | obstruct (name : String) (entry : FileEntry)
  | listen (name : String) (connections : List (List (List UInt8)))
  | seen (server : Nat)
  /-- Bytes of a scripted server; `awaited` says whether the step waits until the watchers have noticed them. -/
  | sendRaw (server connection : Nat) (bytes : List UInt8) (awaited : Bool)
  /-- The end of a connection to a scripted server; `awaited` is as for its bytes. -/
  | closeRaw (server connection : Nat) (awaited : Bool)
deriving Repr

/-- What a step answers. -/
inductive Answer where
  | nothing
  | number (n : Option Nat)
  | flag (b : Bool)
  | text (s : String)
  | value (r : Except ServiceError Json)
  | linked (r : Except ServiceError Nat)
  | published (r : Except ServiceError Nat)
  | items (q : PowerQuery) (xs : List q.Item)
  | result (q : PowerQuery) (r : Except ServiceError (List q.Item))
  | delivery (d : Delivery)
  | shell (r : ShellCommand.ShellRun)
  | frames (connections : List (List (List UInt8)))

namespace Scenario

/-- The directory for the sockets of a scenario. -/
def serviceDir : String := "svc"

def start : Scenario :=
  ⟨.new .empty serviceDir, [], [], [], [], []⟩

variable {α : Type}

/-- Does something on the world. -/
def onWorld (x : Act (World Backend) α) : Act Scenario α :=
  Act.within (·.world) (fun w s => { s with world := w }) x

/-- Does something on the sockets. -/
def onSite (x : Act (Site Backend Recipient) α) : Act Scenario α :=
  onWorld (World.onSite x)

/-- Sets a service up. -/
def install (offer : Offer) : Act Scenario (Service Backend) :=
  onWorld (World.onBackend (Backend.install offer))

/-- The number of an object that the client has; one that it has not gets the next number. -/
def number (ref : ObjectRef) : Act Scenario Nat :=
  Act.update fun s =>
    match s.objects.findIdx? (· == ⟨ref, true⟩) with
    | some n => (n, s)
    | none => (s.objects.length, { s with objects := s.objects ++ [⟨ref, true⟩] })

/-- The number of a handle; a handle that has none gets the next one. -/
def numberHandle (h : Handle) : Act Scenario Nat :=
  Act.update fun s =>
    match s.handles.findIdx? (· == h) with
    | some n => (n, s)
    | none => (s.handles.length, { s with handles := s.handles ++ [h] })

/-- Does something to an object, if there is one of that number, whether the client still has it or not. -/
def toObject (n : Nat) (otherwise : α) (f : ObjectRef → Act Scenario α) : Act Scenario α := do
  let s ← Act.get
  match s.objects[n]? with
  | some o => f o.object
  | none => pure otherwise

/-- Does something with an object that the client has, if there is one of that number. -/
def withObject (n : Nat) (otherwise : α) (f : ObjectRef → Act Scenario α) : Act Scenario α := do
  let s ← Act.get
  match s.objects[n]? with
  | some o => if o.held then f o.object else pure otherwise
  | none => pure otherwise

/-- Changes an object of the same process. -/
def setObject (n : Nat) (f : LocalObject Backend Recipient → LocalObject Backend Recipient) : Act Scenario Answer :=
  toObject n .nothing fun
    | .process i => do
      onWorld (Act.modify fun w => { w with directory := w.directory.update i f })
      pure .nothing
    | _ => pure .nothing

/-- The service that a target stands for. -/
def target : CaptureTarget → Act Scenario (CaptureService (World Backend))
  | .store n => pure ((Backend.capture n).lift World.onBackend)
  | .silent => pure (Backend.silent.lift World.onBackend)
  | .scripted code data allow => pure (.scripted code data allow)
  | .proxy n => do
    let s ← Act.get
    match s.proxies[n]? with
    | some ref => pure (CaptureService.proxy (World.transact ref))
    | none => pure .dropping

/-- The connection of a scripted server, by its number among those of the server. -/
def withConnection (server connection : Nat) (f : Connection → Connection) : Act Scenario Answer := do
  onSite (Site.change fun n =>
    match (n.scripted server)[connection]? with
    | some c => n.updateConnection c f
    | none => n)
  pure .nothing

/-- What a step does, before the watchers of death links notice. -/
def act : Step → Act Scenario Answer
  | .register name offer => do
    let service ← install offer
    let n ← onWorld (World.onDirectory (·.register name service))
    pure (.number (some (← number (.process n))))
  | .remove name => do
    match ← onWorld (World.onDirectory (·.remove name)) with
    | none => pure (.number none)
    | some n =>
      let s ← Act.get
      pure (.number (s.objects.findIdx? (·.object == .process n)))
  | .registerManual name offer => do
    let service ← install offer
    let n ← onWorld (Act.update fun w => (w.manual.length, { w with manual := w.manual ++ [⟨name, service, []⟩] }))
    pure (.number (some (← number (.manual n))))
  | .fire object link =>
    toObject object (.flag false) fun
      | .manual n => Answer.flag <$> onWorld (World.fire n link)
      | _ => pure (.flag false)
  | .lookup registrar name => do
    match ← onWorld (World.lookup registrar name) with
    | none => pure (.number none)
    | some ref => pure (.number (some (← number ref)))
  | .kill object =>
    toObject object .nothing fun
      | .process n => do
        onWorld (World.kill n)
        pure .nothing
      | _ => pure .nothing
  | .failTransactions object on => setObject object fun o => { o with failTransactions := on }
  | .failLinks object on => setObject object fun o => { o with failLinks := on }
  | .link object =>
    withObject object .nothing fun ref => Answer.linked <$> onWorld (World.linkTally ref)
  | .alive object =>
    withObject object .nothing fun ref => do
      let s ← Act.get
      pure (.flag (s.world.isAlive ref))
  | .descriptor object =>
    withObject object .nothing fun ref => do
      let s ← Act.get
      pure (.text (s.world.descriptor ref))
  | .transact object code data =>
    withObject object .nothing fun ref => Answer.value <$> onWorld (World.transact ref code data)
  | .dropObject object =>
    withObject object .nothing fun ref => do
      Act.modify fun s => { s with objects := s.objects.set object ⟨ref, false⟩ }
      let s ← Act.get
      match ref with
      | .socket n =>
        if !(s.proxies.contains ref) then onSite (Site.dropObject n)
        pure .nothing
      | _ => pure .nothing
  | .cache registrar name => do
    let n ← onWorld (World.addCache registrar name)
    Act.update fun s => (.number (some s.caches.length), { s with caches := s.caches ++ [n] })
  | .cacheGet cache => do
    let s ← Act.get
    match s.caches[cache]? with
    | none => pure .nothing
    | some n => do
      match ← onWorld (World.cacheGet n) with
      | none => pure (.number none)
      | some h => pure (.number (some (← numberHandle h)))
  | .cacheResolved cache => do
    let s ← Act.get
    pure (.flag ((s.caches[cache]?).any s.world.isResolved))
  | .cacheDrop cache => do
    let s ← Act.get
    match s.caches[cache]? with
    | none => pure .nothing
    | some n => do
      onWorld (World.dropCache n)
      pure .nothing
  | .handleTransact handle code data => do
    let s ← Act.get
    match s.handles[handle]? with
    | none => pure .nothing
    | some h => Answer.value <$> onWorld (World.transact h.object code data)
  | .facade registrar =>
    Act.update fun s => (.number (some s.facades.length), { s with facades := s.facades ++ [.new registrar] })
  | .connect facade => do
    let s ← Act.get
    match s.facades[facade]? with
    | none => pure .nothing
    | some f => do
      let (connected, f) ← onWorld f.connect
      Act.modify fun s => { s with facades := s.facades.set facade f }
      pure (.flag connected)
  | .ask facade q ids => do
    let s ← Act.get
    match s.facades[facade]? with
    | none => pure .nothing
    | some f => Answer.items q <$> onWorld (f.ask q ids)
  | .askProxy object q ids =>
    withObject object .nothing fun ref => Answer.result q <$> onWorld (PowerStats.proxy (World.transact ref) q ids)
  | .askDevice device q ids => Answer.result q <$> onWorld (World.onBackend (Backend.power device q ids))
  | .store store =>
    onWorld (World.onBackend (Act.update fun b =>
      (.number (some b.stores.length), { b with stores := b.stores ++ [store] })))
  | .addSession store user id => do
    onWorld (World.onBackend (Backend.onStore store (Act.modify (·.add user id))))
    pure .nothing
  | .captureProxy object =>
    withObject object .nothing fun ref =>
      Act.update fun s => (.number (some s.proxies.length), { s with proxies := s.proxies ++ [ref] })
  | .listSessions t user => do
    let service ← target t
    Answer.delivery <$> onWorld (service.list user)
  | .destroySessions t user => do
    let service ← target t
    Answer.delivery <$> onWorld (service.destroy user)
  | .getAllowed t => do
    let service ← target t
    Answer.flag <$> onWorld service.allowed
  | .setAllowed t on => do
    let service ← target t
    onWorld (service.setAllowed on)
    pure .nothing
  | .shell t words timeout outLimit errLimit => do
    let service ← target t
    Answer.shell <$> onWorld (ShellCommand.exec service timeout words ⟨outLimit, []⟩ ⟨errLimit, []⟩)
  | .publish name offer => do
    let service ← install offer
    Answer.published <$> onSite (Site.publish name service)
  | .shutdown host => do
    onSite (Site.shutdown host)
    let s ← Act.get
    let n := s.world.network
    pure (.flag ((n.hosts[host]?).any fun h => (n.entryAt? h.name).isSome))
  | .obstruct name entry => Answer.flag <$> onSite (Site.onNetwork (·.obstruct name entry))
  | .listen name connections => (fun n => .number (some n)) <$> onSite (Site.listen name connections)
  | .seen server => do
    let s ← Act.get
    let n := s.world.network
    pure (.frames ((n.scripted server).map fun c => ((n.connections[c]?).map (·.seen)).getD []))
  | .sendRaw server connection bytes _ =>
    withConnection server connection fun c => if c.closed then c else { c with arrived := c.arrived ++ bytes }
  | .closeRaw server connection _ => withConnection server connection (·.close)

/-- Whether a step is over before a watcher can notice anything: one that only looks at something, or one that does something to
a connection of a scripted server and does not wait. -/
def isHasty : Step → Bool
  | .sendRaw _ _ _ awaited | .closeRaw _ _ awaited => !awaited
  | .alive _ | .descriptor _ | .cacheResolved _ | .seen _ => true
  | _ => false

/-- A step, and what the watchers of death links notice after it. -/
def perform (step : Step) : Act Scenario Answer := do
  let answer ← act step
  if isHasty step then pure answer
  else do
    onWorld World.settle
    pure answer

end Scenario

end Switchboard
