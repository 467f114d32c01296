import Switchboard.Registry.Directory
import Switchboard.Cache.Basic
import Switchboard.Socket.Network

/-!
# A world of services

Everything that clients and services share: the state of the services, the registry of the same process, the sockets of the
service directory, objects whose death notices are sent by hand, the caches of the clients, and recipients that only count.

A cache is told of deaths by its number and a generation. A cache that is dropped is never told.
-/

namespace Switchboard

/-- Where a service is looked up. -/
inductive Registrar where
  | process
  | sockets
deriving DecidableEq, Repr

/-- A client's handle to a service. -/
inductive ObjectRef where
  /-- Into the same process. -/
  | process (n : Nat)
  /-- One whose death notices are sent by hand. -/
  | manual (n : Nat)
  /-- Through a socket. -/
  | socket (n : Nat)
deriving DecidableEq, Repr

/-- Who is told of a death. -/
inductive Recipient where
  | cache (number generation : Nat)
  | tally (n : Nat)
deriving DecidableEq, Repr

/-- What a cache hands out: one value for each resolution. -/
structure Handle where
  cache : Nat
  generation : Nat
  object : ObjectRef
deriving DecidableEq, Repr

/-- An object that never dies and forgets no recipient; each can be told again and again. -/
structure ManualObject (σ : Type) where
  name : String
  service : Service σ
  recipients : List Recipient

/-- A cache, where and under which name it looks its service up, and whether it was dropped. -/
structure CacheCell where
  registrar : Registrar
  name : String
  cache : Cache Handle
  dropped : Bool
deriving Repr

/-- Everything that clients and services share. -/
structure World (σ : Type) where
  backend : σ
  directory : Directory σ Recipient
  /-- The objects by hand; a name stands for the last of it, and hides what is registered in the process. -/
  manual : List (ManualObject σ)
  network : Network σ Recipient
  caches : List CacheCell
  /-- How often each counting recipient was told. -/
  tallies : List Nat

namespace World

variable {σ : Type}

/-- An empty world with a service directory. -/
def new (backend : σ) (dir : String) : World σ :=
  ⟨backend, .empty, [], .new dir, [], []⟩

/-- Does something on the state of the services. -/
def onBackend {α : Type} (x : Act σ α) : Act (World σ) α :=
  Act.within (·.backend) (fun b w => { w with backend := b }) x

/-- Does something on the registry of the process. -/
def onDirectory {α : Type} (f : Directory σ Recipient → α × Directory σ Recipient) : Act (World σ) α :=
  Act.update fun w => ((f w.directory).1, { w with directory := (f w.directory).2 })

/-- Does something on the sockets and the state of the services. -/
def onSite {α : Type} (x : Act (Site σ Recipient) α) : Act (World σ) α :=
  Act.within (fun w => ⟨w.backend, w.network⟩)
    (fun s w => { w with backend := s.backend, network := s.network }) x

/-! ## Objects -/

/-- The object by hand that a name stands for. -/
def manual? (w : World σ) (name : String) : Option Nat :=
  (List.range w.manual.length).reverse.find? fun n => (w.manual[n]?).any (·.name == name)

/-- Looks a service up. -/
def lookup (registrar : Registrar) (name : String) : Act (World σ) (Option ObjectRef) := do
  match registrar with
  | .sockets => pure ((← onSite (Site.lookup name)).map .socket)
  | .process => do
    let w ← Act.get
    match w.manual? name with
    | some n => pure (some (.manual n))
    | none => pure ((← onDirectory (·.lookup name)).map .process)

/-- A transaction on an object. -/
def transact (object : ObjectRef) : Service (World σ) :=
  fun code data => do
    let w ← Act.get
    match object with
    | .socket n => onSite (Site.transact n code data)
    | .manual n =>
      match w.manual[n]? with
      | none => pure (.error .deadObject)
      | some o => onBackend (o.service code data)
    | .process n =>
      match w.directory.object? n with
      | none => pure (.error .deadObject)
      | some o => do
        Act.modify fun w => { w with directory := w.directory.update n (·.count) }
        onBackend (o.answer code data)

/-- Links a recipient to the death of an object. -/
def link (object : ObjectRef) (r : Recipient) : Act (World σ) (Except ServiceError Unit) := do
  match object with
  | .socket n => onSite (Site.link n r)
  | .process n => onDirectory (·.link n r)
  | .manual n => do
    Act.modify fun w =>
      { w with manual := w.manual.modify n fun o => { o with recipients := o.recipients ++ [r] } }
    pure (.ok ())

def isAlive (w : World σ) : ObjectRef → Bool
  | .socket n => (w.network.objects[n]?).any (·.alive)
  | .process n => (w.directory.object? n).any (·.alive)
  | .manual _ => true

/-- The name that an object was found by. -/
def descriptor (w : World σ) : ObjectRef → String
  | .socket n => ((w.network.objects[n]?).map (·.name)).getD ""
  | .process n => ((w.directory.object? n).map (·.name)).getD ""
  | .manual n => ((w.manual[n]?).map (·.name)).getD ""

/-! ## Deaths -/

/-- Tells a recipient of a death. -/
def tell (r : Recipient) : Act (World σ) Unit := do
  match r with
  | .tally n => Act.modify fun w => { w with tallies := w.tallies.modify n (· + 1) }
  | .cache n generation => do
    let w ← Act.get
    match w.caches[n]? with
    | none => pure ()
    | some cell =>
      if cell.dropped then pure ()
      else do
        let cache ← cell.cache.died cell.name generation
        Act.modify fun w => { w with caches := w.caches.set n { cell with cache } }

def tellAll : List Recipient → Act (World σ) Unit
  | [] => pure ()
  | r :: rest => do
    tell r
    tellAll rest

/-- Kills an object of the same process; its recipients are told at once. -/
def kill (n : Nat) : Act (World σ) Unit := do
  tellAll (← onDirectory (·.kill n))

/-- Tells one recipient of an object by hand; returns whether there is one. -/
def fire (n link : Nat) : Act (World σ) Bool := do
  let w ← Act.get
  match (w.manual[n]?).bind (·.recipients[link]?) with
  | none => pure false
  | some r => do
    tell r
    pure true

/-- The watchers of death links tell their recipients, each on its own thread. -/
def settle : Act (World σ) Unit := do
  let recipients ← onSite Site.watch
  let _ ← Act.elsewhere (tellAll recipients)

/-- A new counting recipient, linked to an object; there is none if the link fails. -/
def linkTally (object : ObjectRef) : Act (World σ) (Except ServiceError Nat) := do
  let w ← Act.get
  match ← link object (.tally w.tallies.length) with
  | .error e => pure (.error e)
  | .ok () => do
    Act.modify fun w => { w with tallies := w.tallies ++ [0] }
    pure (.ok w.tallies.length)

/-! ## Caches -/

/-- A new cache; returns its number. -/
def addCache (registrar : Registrar) (name : String) : Act (World σ) Nat :=
  Act.update fun w => (w.caches.length, { w with caches := w.caches ++ [⟨registrar, name, .empty, false⟩] })

/-- Where a cache finds its service. -/
def resolver (n : Nat) (cell : CacheCell) : Resolver (World σ) ObjectRef Handle where
  lookup := lookup cell.registrar cell.name
  link object generation := link object (.cache n generation)
  handle object generation := ⟨n, generation, object⟩

/-- The handle of a cache. -/
def cacheGet (n : Nat) : Act (World σ) (Option Handle) := do
  let w ← Act.get
  match w.caches[n]? with
  | none => pure none
  | some cell => do
    let (handle, cache) ← cell.cache.get cell.name (resolver n cell)
    Act.modify fun w => { w with caches := w.caches.set n { cell with cache } }
    pure handle

def isResolved (w : World σ) (n : Nat) : Bool :=
  (w.caches[n]?).any (·.cache.isResolved)

def dropCache (n : Nat) : Act (World σ) Unit :=
  Act.modify fun w => { w with caches := w.caches.modify n fun cell => { cell with dropped := true } }

end World

end Switchboard
