import Switchboard.Proofs.Socket.Moves
import Switchboard.Proofs.Socket.Serving
import Switchboard.Service.Plain

/-!
# What happens at a site

Hosts are published and shut down, clients look services up, link to their deaths, call them or write bytes of their own on
their connections, and the directory is cluttered and tidied: `SiteStep` lists what anybody may do, and `Site.after` does it, in
any order. A step that waits forever holds nobody else up.

What a lookup and a link come to is said once, by who listens at the path of the service (`Site.run_lookup_of_listener`,
`Site.run_link_of_listener`). Every step moves the network (`Site.moves_act`), so it is sound after all of them
(`Site.sound_after`).
-/

namespace Switchboard

variable {σ ρ : Type}

/-! ## Steps -/

/-- A step of anybody at a site. -/
inductive SiteStep (σ ρ : Type) where
  | publish (name : String) (service : Service σ)
  | shutdown (host : Nat)
  | lookup (name : String)
  | link (object : Nat) (recipient : ρ)
  | transact (object : Nat) (code : UInt32) (data : Json)
  /-- A client writes bytes of its own where its object sends requests. -/
  | write (object : Nat) (bytes : List UInt8)
  /-- A client reads an answer by itself. -/
  | read (object : Nat)
  /-- The watchers of the death links look at their connections. -/
  | watch
  | drop (object : Nat)
  /-- A file or a directory is put at the path of a service. -/
  | obstruct (name : String) (directory : Bool)
  /-- Whatever lies at the path of a service is removed. -/
  | remove (name : String)
  /-- The state of the services changes otherwise. -/
  | elsewhere (f : σ → σ)

/-- Does something on the connection of an object's transactions, if there is one. -/
def Site.onObject (b : Nat) (x : Nat → Act (Site σ ρ) Unit) : Act (Site σ ρ) Unit := do
  let s ← Act.get
  match s.network.objects[b]? with
  | none => pure ()
  | some o => x o.connection

/-- What a step does. -/
def SiteStep.act : SiteStep σ ρ → Act (Site σ ρ) Unit
  | .publish name service => (fun _ => ()) <$> Site.publish name service
  | .shutdown h => Site.shutdown h
  | .lookup name => (fun _ => ()) <$> Site.lookup name
  | .link b r => (fun _ => ()) <$> Site.link b r
  | .transact b code data => (fun _ => ()) <$> Site.transact b code data
  | .write b bytes => Site.onObject b fun c => (fun _ => ()) <$> Site.write c bytes
  | .read b => Site.onObject b fun c => (fun _ => ()) <$> Site.receive c
  | .watch => (fun _ => ()) <$> Site.watch
  | .drop b => Site.dropObject b
  | .obstruct name directory =>
    (fun _ => ()) <$> Site.onNetwork (·.obstruct name (if directory then .directory else .file))
  | .remove name => Site.change (·.removeEntry name)
  | .elsewhere f => Site.onBackend (Act.modify f)

namespace Site

/-- A site with nothing in it yet. -/
def new (backend : σ) (dir : String) : Site σ ρ :=
  ⟨backend, .new dir⟩

/-- The site after some steps, whether or not they came to their ends. -/
def after (s : Site σ ρ) (steps : List (SiteStep σ ρ)) : Site σ ρ :=
  steps.foldl (fun s a => (a.act.run s).state) s

/-- Later steps begin where the earlier ones end. -/
theorem after_append (s : Site σ ρ) (steps steps' : List (SiteStep σ ρ)) :
    s.after (steps ++ steps') = (s.after steps).after steps' :=
  List.foldl_append

end Site

/-! ## Using a connection -/

theorem Connection.Used.refl (k : Connection) : k.Used k :=
  ⟨rfl, rfl, fun _ => rfl, fun _ _ => rfl⟩

theorem Connection.Used.trans {k k' k'' : Connection} (h : k.Used k') (h' : k'.Used k'') : k.Used k'' where
  server := h'.server.trans h.server
  closed := h'.closed.trans h.closed
  handler := fun hs => (h'.handler (by rw [h.handler hs]; exact hs)).trans (h.handler hs)
  arrived := by
    intro hs hnext
    have hfirst := h.arrived hs hnext
    exact (h'.arrived (by rw [h.handler hs]; exact hs) (by rw [hfirst]; exact hnext)).trans hfirst

/-- Only what a client and the handler may do to a connection of a host was done to it, and nothing to any other. -/
def Network.Uses (c : Nat) (n n' : Network σ ρ) : Prop :=
  (∀ k, n.connections[c]? = some k → ∃ h, k.server = .host h) ∧
    ∃ f, (∀ k, n.connections[c]? = some k → k.Used (f k)) ∧ n' = n.updateConnection c f

namespace Network.Uses

variable {c : Nat} {n n' : Network σ ρ}

theorem refl (hhost : ∀ k, n.connections[c]? = some k → ∃ h, k.server = .host h) : Uses c n n := by
  refine ⟨hhost, id, fun k _ => .refl k, ?_⟩
  simp [updateConnection]

/-- A connection that was used may be used on. -/
theorem update (h : Uses c n n') {f : Connection → Connection} (hf : ∀ k, n'.connections[c]? = some k → k.Used (f k)) :
    Uses c n (n'.updateConnection c f) := by
  obtain ⟨hhost, g, hg, rfl⟩ := h
  refine ⟨hhost, fun k => f (g k), ?_, ?_⟩
  · intro k hk
    refine (hg k hk).trans (hf (g k) ?_)
    rw [getElem?_updateConnection_self, hk, Option.map_some]
  · rw [updateConnection_updateConnection]

/-- The connection is still one of a host. -/
theorem host (h : Uses c n n') {k : Connection} (hk : n'.connections[c]? = some k) : ∃ g, k.server = .host g := by
  obtain ⟨hhost, g, hg, rfl⟩ := h
  rw [getElem?_updateConnection_self] at hk
  obtain ⟨k', hk', rfl⟩ := Option.map_eq_some_iff.mp hk
  rw [(hg k' hk').server]
  exact hhost k' hk'

end Network.Uses

/-- What a handler that serves does to its connection. -/
theorem Connection.used_attended {k : Connection} (hk : k.handler = .serving) (outcome : Option Served) :
    k.Used (k.attended outcome) := by
  cases outcome with
  | none => exact ⟨rfl, rfl, fun h => absurd hk h, fun h => absurd hk h⟩
  | some served => exact ⟨rfl, rfl, fun h => absurd hk h, fun h => absurd hk h⟩

namespace Site

variable {n : Network σ ρ} {c : Nat}

/-- What the handler of a connection does, as soon as it is the turn of one that serves. -/
theorem run_attend {s : Site σ ρ} {k : Connection} {h : Nat} {host : Host σ} (hk : s.network.connections[c]? = some k)
    (hs : k.handler = .serving) (hserver : k.server = .host h) (hh : s.network.hosts[h]? = some host) :
    (attend c).run s =
      ⟨some (), ⟨((serve host.service k.pending).run s.backend).state,
        s.network.updateConnection c (Connection.attended ((serve host.service k.pending).run s.backend).value)⟩, []⟩ := by
  simp [attend, Act.run_bind, hk, hs, hserver, hh]

/-- A handler that left its loop, or is stuck, does nothing. -/
theorem run_attend_of_idle {s : Site σ ρ} {k : Connection} (hk : s.network.connections[c]? = some k)
    (hs : k.handler ≠ .serving) : (attend c).run s = ⟨some (), s, []⟩ := by
  simp [attend, Act.run_bind, hk, hs]

/-- When the handler attends to a connection, it uses that one alone. -/
theorem keeps_attend : (attend c : Act (Site σ ρ) Unit).Keeps fun s => n.Uses c s.network := by
  intro s h
  cases hk : s.network.connections[c]? with
  | none =>
    have hrun : (attend c).run s = ⟨some (), s, []⟩ := by simp [attend, Act.run_bind, hk]
    rw [hrun]
    exact h
  | some k =>
    by_cases hs : k.handler = .serving
    · obtain ⟨g, hserver⟩ := h.host hk
      cases hh : s.network.hosts[g]? with
      | none =>
        have hrun : (attend c).run s = ⟨some (), s, []⟩ := by simp [attend, Act.run_bind, hk, hs, hserver, hh]
        rw [hrun]
        exact h
      | some host =>
        rw [run_attend hk hs hserver hh]
        refine h.update fun k' hk' => ?_
        obtain rfl := Option.some.inj (hk.symm.trans hk')
        exact Connection.used_attended hs _
    · rw [run_attend_of_idle hk hs]
      exact h

/-- So does a client that writes. -/
theorem keeps_write (bytes : List UInt8) :
    (write c bytes : Act (Site σ ρ) (Except TubeError Unit)).Keeps fun s => n.Uses c s.network := by
  refine Act.keeps_get.bind fun s => ?_
  split
  · exact Act.keeps_pure _
  · refine Act.Keeps.bind (fun t ht => ht.update fun k hk => ?_) fun _ => keeps_attend.bind fun _ => Act.keeps_pure _
    exact ⟨rfl, rfl, fun _ => rfl, fun _ _ => rfl⟩

/-- So does one that sends a request. -/
theorem keeps_send (request : HostRequest) :
    (send c request : Act (Site σ ρ) (Except TubeError Unit)).Keeps fun s => n.Uses c s.network := by
  unfold send
  split
  · exact Act.keeps_pure _
  · exact keeps_write _

/-- What arrived on a connection is received. -/
theorem run_receive {s : Site σ ρ} {k : Connection} {result : Except TubeError HostReply} {rest : List UInt8}
    (hk : s.network.connections[c]? = some k) (hr : Frame.receive? k.arrived = some (result, rest)) :
    (receive c).run s =
      ⟨some result, { s with network := s.network.updateConnection c fun k => { k with arrived := rest } }, []⟩ := by
  simp [receive, Act.run_bind, hk, hr]

/-- Where no whole frame arrived, a client waits forever, unless the connection is closed. -/
theorem run_receive_of_incomplete {s : Site σ ρ} {k : Connection} (hk : s.network.connections[c]? = some k)
    (hr : (Frame.receive? k.arrived : Option (Except TubeError HostReply × List UInt8)) = none) :
    (receive c : Act (Site σ ρ) (Except TubeError HostReply)).run s =
      ⟨if k.closed then some (.error .disconnected) else none, s, []⟩ := by
  cases hclosed : k.closed <;> simp [receive, Act.run_bind, hk, hr, hclosed]

/-- So does one that receives a reply. -/
theorem keeps_receive :
    (receive c : Act (Site σ ρ) (Except TubeError HostReply)).Keeps fun s => n.Uses c s.network := by
  intro s h
  cases hk : s.network.connections[c]? with
  | none =>
    have hrun : (receive c).run s = ⟨some (.error .disconnected), s, []⟩ := by simp [receive, Act.run_bind, hk]
    rw [hrun]
    exact h
  | some k =>
    cases hr : (Frame.receive? k.arrived : Option (Except TubeError HostReply × List UInt8)) with
    | none =>
      rw [run_receive_of_incomplete hk hr]
      exact h
    | some received =>
      rw [run_receive hk hr]
      refine h.update fun k' hk' => ⟨rfl, rfl, fun _ => rfl, fun _ hnext => ?_⟩
      -- what is received was there as a whole frame
      obtain rfl := Option.some.inj (hk.symm.trans hk')
      rw [Frame.receive?, hnext] at hr
      cases hr

/-- So does one that does both. -/
theorem keeps_exchange (request : HostRequest) :
    (exchange c request : Act (Site σ ρ) (Except ServiceError HostReply)).Keeps fun s => n.Uses c s.network := by
  refine (keeps_send request).bind fun sent => ?_
  split
  · exact Act.keeps_pure _
  · refine keeps_receive.bind fun received => ?_
    split
    · exact Act.keeps_pure _
    · exact Act.keeps_pure _

end Site

/-! ## What a link comes to -/

namespace Network

variable {n : Network σ ρ} {c h : Nat}

theorem updateConnection_eq_self {k : Connection} {f : Connection → Connection} (hk : n.connections[c]? = some k)
    (hf : f k = k) : n.updateConnection c f = n := by
  have hconnections : n.connections.modify c f = n.connections := by
    refine List.ext_getElem? fun i => ?_
    rw [List.getElem?_modify]
    by_cases hi : c = i
    · subst hi
      simp [hk, hf]
    · simp [hi]
  rw [updateConnection, hconnections]

end Network

namespace Site

variable {s : Site σ ρ} {b c h : Nat}

/-- Bytes that are written on an open connection wait for its handler, whose turn it is then. -/
theorem run_write {k : Connection} {bytes : List UInt8} {t : Site σ ρ} {log : List Record}
    (hk : s.network.connections[c]? = some k) (hopen : k.closed = false)
    (hattend : (attend c).run ⟨s.backend, s.network.updateConnection c fun k => { k with pending := k.pending ++ bytes }⟩ =
      ⟨some (), t, log⟩) : (write c bytes).run s = ⟨some (.ok ()), t, log⟩ := by
  simp [write, Act.run_bind, hk, hopen, hattend]

/-- A handler that serves takes them at once. -/
theorem run_write_of_serving {k : Connection} {host : Host σ} (bytes : List UInt8)
    (hk : s.network.connections[c]? = some k) (hopen : k.closed = false) (hserving : k.handler = .serving)
    (hserver : k.server = .host h) (hh : s.network.hosts[h]? = some host) :
    (write c bytes).run s =
      ⟨some (.ok ()), ⟨((serve host.service (k.pending ++ bytes)).run s.backend).state,
        s.network.updateConnection c fun k' => ({ k' with pending := k'.pending ++ bytes } : Connection).attended
          ((serve host.service (k.pending ++ bytes)).run s.backend).value⟩, []⟩ := by
  let asked (k : Connection) : Connection := { k with pending := k.pending ++ bytes }
  have hasked : (s.network.updateConnection c asked).connections[c]? = some (asked k) := by
    rw [Network.getElem?_updateConnection_self, hk, Option.map_some]
  have hattend := run_attend (s := ⟨s.backend, s.network.updateConnection c asked⟩) hasked hserving hserver hh
  rw [Network.updateConnection_updateConnection] at hattend
  exact run_write hk hopen hattend

/-- A host acknowledges a death link on a new connection, and nothing else changes. -/
theorem run_exchange_link {host : Host σ} (hk : s.network.connections[c]? = some (.fresh (.host h)))
    (hh : s.network.hosts[h]? = some host) : (exchange c .linkToDeath).run s = ⟨some (.ok .linked), s, []⟩ := by
  let answered (k : Connection) : Connection :=
    ({ k with pending := k.pending ++ HostRequest.linkFrame } : Connection).attended
      (some ⟨[HostReply.linkedFrame], some []⟩)
  have hsend : (send c .linkToDeath).run s =
      ⟨some (.ok ()), { s with network := s.network.updateConnection c answered }, []⟩ := by
    have hwrite := run_write_of_serving HostRequest.linkFrame hk rfl rfl rfl hh
    rw [show (Connection.fresh (.host h)).pending ++ HostRequest.linkFrame = HostRequest.linkFrame from rfl,
      run_serve_linkFrame] at hwrite
    unfold send
    rw [encode_linkToDeath]
    exact hwrite
  have hanswered : (s.network.updateConnection c answered).connections[c]? = some (answered (.fresh (.host h))) := by
    rw [Network.getElem?_updateConnection_self, hk, Option.map_some]
  have hback : (s.network.updateConnection c answered).updateConnection c (fun k => { k with arrived := [] }) =
      s.network := by
    rw [Network.updateConnection_updateConnection]
    exact Network.updateConnection_eq_self hk rfl
  have hreceive := run_receive (s := { s with network := s.network.updateConnection c answered }) hanswered
    (show Frame.receive? (answered (.fresh (.host h))).arrived = _ from receive_linkedFrame)
  rw [hback] at hreceive
  simp only [exchange, Act.run_bind, hsend, hreceive, Act.run_pure]
  rfl

section Link

variable {o : SocketObject ρ} (r : ρ)

/-- Without an object there is nothing to link. -/
theorem run_link_of_no_object (ho : s.network.objects[b]? = none) :
    (link b r).run s = ⟨some (.error .deadObject), s, []⟩ := by
  simp [link, Act.run_bind, ho]

/-- A link on an object that is known to be dead is refused. -/
theorem run_link_of_dead (ho : s.network.objects[b]? = some o) (halive : o.alive = false) :
    (link b r).run s = ⟨some (.error .deadObject), s, []⟩ := by
  simp [link, Act.run_bind, ho, halive]

/-- So is one where no host listens at the path of the object. -/
theorem run_link_of_no_listener (ho : s.network.objects[b]? = some o) (hscripts : s.network.scripts = [])
    (hl : s.network.listener? o.name = none) : (link b r).run s = ⟨some (.error .deadObject), s, []⟩ := by
  by_cases halive : o.alive = true
  · obtain ⟨e, hconnect⟩ := Network.connect_of_no_listener hscripts hl
    simp [link, Act.run_bind, ho, halive, hconnect]
  · exact run_link_of_dead r ho (Bool.eq_false_iff.mpr halive)

/-- Any other one is acknowledged by the host that listens there. -/
theorem run_link_of_listener (ho : s.network.objects[b]? = some o) (halive : o.alive = true)
    (hl : s.network.listener? o.name = some h) :
    (link b r).run s =
      ⟨some (.ok ()), { s with network := (s.network.accept h).2.updateObject b fun o =>
        { o with links := o.links ++ [⟨s.network.connections.length, r, true⟩] } }, []⟩ := by
  obtain ⟨host, hh, -⟩ := Network.isRunning_eq_true_iff.mp (Network.isRunning_of_listener hl)
  have hexchange := run_exchange_link (s := { s with network := (s.network.accept h).2 })
    (Network.getElem?_accept_new (n := s.network) (h := h)) hh
  simp [link, Act.run_bind, ho, halive, Network.connect_of_listener hl, hexchange]

end Link

/-! ## What a lookup comes to -/

variable {name : String}

/-- A lookup finds nothing where nobody listens. -/
theorem run_lookup_of_no_listener (hscripts : s.network.scripts = []) (hl : s.network.listener? name = none) :
    ((lookup name).run s).value = some none ∧ ((lookup name).run s).state = s := by
  obtain ⟨e, hconnect⟩ := Network.connect_of_no_listener hscripts hl
  simp [lookup, Act.run_bind, hconnect]

/-- A lookup finds the host that listens at the path of the name. -/
theorem run_lookup_of_listener (hl : s.network.listener? name = some h) :
    (lookup name).run s =
      ⟨some (some s.network.objects.length), { s with network := { (s.network.accept h).2 with
        objects := s.network.objects ++ [⟨name, s.network.connections.length, true, []⟩] } }, []⟩ := by
  simp only [lookup, Act.run_bind, run_onNetwork, Network.connect_of_listener hl]
  rfl

end Site

/-! ## Connections that are accepted -/

/-- The network is as it was, or a host has accepted a connection and the clients' objects are others. -/
def Network.Accepts (n n' : Network σ ρ) : Prop :=
  n' = n ∨ ∃ h objects, n' = { (n.accept h).2 with objects }

namespace Site

variable {s : Site σ ρ}

/-- A lookup makes at most a new connection and an object on it. -/
theorem accepts_lookup (hn : s.network.Sound) (name : String) :
    s.network.Accepts ((lookup name).run s).state.network := by
  cases hl : s.network.listener? name with
  | none =>
    rw [(run_lookup_of_no_listener hn.unscripted hl).2]
    exact .inl rfl
  | some h =>
    rw [run_lookup_of_listener hl]
    exact .inr ⟨h, _, rfl⟩

/-- A link makes at most a new connection and an entry in its object. -/
theorem accepts_link (hn : s.network.Sound) (b : Nat) (r : ρ) :
    s.network.Accepts ((link b r).run s).state.network := by
  cases ho : s.network.objects[b]? with
  | none =>
    rw [run_link_of_no_object r ho]
    exact .inl rfl
  | some o =>
    by_cases halive : o.alive = true
    · cases hl : s.network.listener? o.name with
      | none =>
        rw [run_link_of_no_listener r ho hn.unscripted hl]
        exact .inl rfl
      | some h =>
        rw [run_link_of_listener r ho halive hl]
        exact .inr ⟨h, _, rfl⟩
    · rw [run_link_of_dead r ho (Bool.eq_false_iff.mpr halive)]
      exact .inl rfl

end Site

/-! ## Every step moves -/

namespace Network

variable {n : Network σ ρ}

/-- Only the connection of some object's transactions was used. -/
def UsesObject (n n' : Network σ ρ) : Prop :=
  n' = n ∨ ∃ o ∈ n.objects, n.Uses o.connection n'

/-- Using the connection of an object's transactions moves the network. -/
theorem UsesObject.moves {n' : Network σ ρ} (hn : n.Sound) (h : n.UsesObject n') : n.Moves n' := by
  rcases h with rfl | ⟨o, ho, -, f, hf, rfl⟩
  · exact .none
  · exact (Move.use o.connection f hf fun o' ho' l hl => hn.fits.apart o' ho' l hl o ho).moves

theorem UsesObject.objects_eq {n' : Network σ ρ} (h : n.UsesObject n') : n'.objects = n.objects := by
  rcases h with rfl | ⟨-, -, -, -, -, rfl⟩
  · rfl
  · rfl

end Network

namespace Site

variable {s : Site σ ρ}

/-- A publication keeps what the tidying of the directory and a new host keep. -/
theorem keeps_publish {P : Network σ ρ → Prop}
    (tidy : ∀ (m : Network σ ρ) (made : Bool) (files : List (String × FileEntry)), P m → P { m with made, files })
    (added : ∀ (m : Network σ ρ) (host : Host σ), P m → P { m with hosts := m.hosts ++ [host] })
    (name : String) (service : Service σ) :
    (publish name service : Act (Site σ ρ) (Except ServiceError Nat)).Keeps fun t => P t.network := by
  have keeps_change : ∀ {f : Network σ ρ → Network σ ρ}, (∀ m, P m → P (f m)) →
      (change f : Act (Site σ ρ) Unit).Keeps fun t => P t.network :=
    fun hf t ht => hf t.network ht
  have last : ∀ (h : Nat) (message : String), (do
      change fun n =>
        { n.putEntry name (.socket (.host h)) with hosts := n.hosts ++ [⟨name, service, true⟩] }
      Act.log .info message
      pure (.ok h) : Act (Site σ ρ) (Except ServiceError Nat)).Keeps fun t => P t.network := by
    intro h message
    refine (keeps_change fun m hm => ?_).bind fun _ => (Act.keeps_log _ _).bind fun _ => Act.keeps_pure _
    exact added _ _ (tidy m true _ hm)
  refine (keeps_change fun m hm => tidy m true m.files hm).bind fun _ => Act.keeps_get.bind fun t => ?_
  simp only
  split
  · exact Act.keeps_pure _
  · split
    · exact Act.keeps_pure _
    · split
      · exact Act.keeps_pure _
      · split
        · refine (Act.keeps_log _ _).bind fun _ => (keeps_change fun m hm => tidy m m.made _ hm).bind fun _ => ?_
          split
          · exact Act.keeps_pure _
          · exact last _ _
        · split
          · exact Act.keeps_pure _
          · exact last _ _

/-- A shutdown of a host that runs wakes whoever is at its path and waits, or ends the host and may tidy its path. -/
theorem shutdown_cases (hn : s.network.Sound) (h : Nat) :
    ((shutdown h).run s).state.network = s.network ∨
      (∃ g, s.network.isRunning g = true ∧ ((shutdown h).run s).state.network = (s.network.accept g).2) ∨
      ∃ files, ((shutdown h).run s).state.network =
        { s.network.closeAll (·.isOf h) with
          hosts := s.network.hosts.modify h fun host => { host with running := false }
          files } := by
  rw [shutdown, Act.run_bind]
  simp only [Act.run_get]
  split
  · exact .inl rfl
  · rename_i host hh
    split
    · exact .inl rfl
    · split
      · cases hl : s.network.listener? host.name with
        | none =>
          obtain ⟨e, hconnect⟩ := Network.connect_of_no_listener hn.unscripted hl
          simp [Act.run_bind, hconnect]
        | some g =>
          refine .inr (.inl ⟨g, Network.isRunning_of_listener hl, ?_⟩)
          simp [Act.run_bind, Network.connect_of_listener hl]
      · refine .inr (.inr ?_)
        rw [Act.run_bind]
        simp only [run_change]
        split
        · exact ⟨s.network.files, rfl⟩
        · exact ⟨s.network.files.filter (·.1 != socketName host.name), rfl⟩

/-- A publication moves the network. -/
theorem moves_publish (name : String) (service : Service σ) : s.network.Moves ((publish name service).run s).state.network :=
  keeps_publish (fun _ made files hm => hm.more (.tidy made files)) (fun _ host hm => hm.more (.publish host))
    name service s .none

/-- So does a shutdown, and it does so as far as it gets. -/
theorem moves_shutdown (hn : s.network.Sound) (h : Nat) : s.network.Moves ((shutdown h).run s).state.network := by
  rcases shutdown_cases hn h with hsame | ⟨g, hrunning, haccept⟩ | ⟨files, hended⟩
  · rw [hsame]
    exact .none
  · rw [haccept]
    exact (Network.Move.accept g hrunning).moves
  · rw [hended]
    exact (Network.Move.shutdown h).moves.more (.tidy s.network.made files)

/-- So does a lookup. -/
theorem moves_lookup (hn : s.network.Sound) (name : String) : s.network.Moves ((lookup name).run s).state.network := by
  cases hl : s.network.listener? name with
  | none =>
    rw [(run_lookup_of_no_listener hn.unscripted hl).2]
    exact .none
  | some h =>
    have haccept := Network.Move.accept h (Network.isRunning_of_listener hl)
    rw [run_lookup_of_listener hl]
    refine .more haccept.moves (.arrange _ ((hn.move haccept).fits.snoc (Network.isAddressable_of_listener hl) ?_ ?_) ?_)
    · rw [Network.length_accept]
      exact Nat.lt_succ_self _
    · exact fun o ho l hl => Nat.ne_of_gt (hn.fits.watches o ho l hl).lt
    · intro b o ho
      refine ⟨o, ?_, rfl, rfl⟩
      exact (List.getElem?_append_left (List.getElem?_eq_some_iff.mp ho).1).trans ho

/-- So does a link. -/
theorem moves_link (hn : s.network.Sound) (b : Nat) (r : ρ) : s.network.Moves ((link b r).run s).state.network := by
  cases ho : s.network.objects[b]? with
  | none =>
    rw [run_link_of_no_object r ho]
    exact .none
  | some o =>
    cases halive : o.alive with
    | false =>
      rw [run_link_of_dead r ho halive]
      exact .none
    | true =>
      cases hl : s.network.listener? o.name with
      | none =>
        rw [run_link_of_no_listener r ho hn.unscripted hl]
        exact .none
      | some h =>
        have hrunning := Network.isRunning_of_listener hl
        have haccept := Network.Move.accept h hrunning
        rw [run_link_of_listener r ho halive hl]
        refine .more haccept.moves (.arrange _ ((hn.move haccept).fits.link ?_ ?_) (kept_modify (fun o => ⟨rfl, rfl⟩)))
        · refine ⟨.fresh (.host h), h, Network.getElem?_accept_new, rfl, rfl, fun _ => ⟨rfl, rfl⟩, fun hdown => ?_⟩
          exact absurd (hrunning.symm.trans hdown) (by simp)
        · exact fun o ho => Nat.ne_of_lt (hn.fits.connected o ho)

/-- A transaction uses the connection of an object. -/
theorem usesObject_transact (hn : s.network.Sound) (b : Nat) (code : UInt32) (data : Json) :
    s.network.UsesObject ((transact b code data).run s).state.network := by
  cases ho : s.network.objects[b]? with
  | none =>
    have hrun : (transact b code data).run s = ⟨some (.error .deadObject), s, []⟩ := by simp [transact, Act.run_bind, ho]
    rw [hrun]
    exact .inl rfl
  | some o =>
    cases halive : o.alive with
    | false =>
      have hrun : (transact b code data).run s = ⟨some (.error .deadObject), s, []⟩ := by
        simp [transact, Act.run_bind, ho, halive]
      rw [hrun]
      exact .inl rfl
    | true =>
      refine .inr ⟨o, List.mem_of_getElem? ho, ?_⟩
      rw [transact, Act.run_bind]
      simp only [Act.run_get, ho, halive, Bool.not_true, Bool.false_eq_true, if_false]
      refine Act.Keeps.bind (keeps_exchange _) (fun answer => ?_) s (.refl fun k => hn.host_of_connection)
      split
      · exact Act.keeps_pure _
      · exact Act.keeps_pure _

/-- What is done on the connection of an object's transactions uses that connection. -/
theorem usesObject_onObject (hn : s.network.Sound) (b : Nat) {x : Nat → Act (Site σ ρ) Unit}
    (hx : ∀ c, (x c).Keeps fun t => s.network.Uses c t.network) :
    s.network.UsesObject ((onObject b x).run s).state.network := by
  rw [onObject, Act.run_bind]
  simp only [Act.run_get]
  cases ho : s.network.objects[b]? with
  | none => exact .inl rfl
  | some o => exact .inr ⟨o, List.mem_of_getElem? ho, hx o.connection s (.refl fun k => hn.host_of_connection)⟩

/-- Writing bytes does so too. -/
theorem usesObject_write (hn : s.network.Sound) (b : Nat) (bytes : List UInt8) :
    s.network.UsesObject (((SiteStep.write b bytes).act : Act (Site σ ρ) Unit).run s).state.network :=
  usesObject_onObject hn b fun _ => (keeps_write bytes).map _

/-- So does reading an answer. -/
theorem usesObject_read (hn : s.network.Sound) (b : Nat) :
    s.network.UsesObject (((SiteStep.read b).act : Act (Site σ ρ) Unit).run s).state.network :=
  usesObject_onObject hn b fun _ => keeps_receive.map _

/-- The network moves when the watchers look. -/
theorem moves_watch (hn : s.network.Sound) : s.network.Moves ((watch : Act (Site σ ρ) (List ρ)).run s).state.network := by
  refine (Network.Move.arrange (s.network.objects.map s.network.notice) (hn.fits.of_same fun o' ho' => ?_) ?_).moves
  · obtain ⟨o, ho, rfl⟩ := List.mem_map.mp ho'
    refine ⟨o, ho, rfl, rfl, fun l' hl' => ?_⟩
    obtain ⟨l, hl, rfl⟩ := List.mem_map.mp hl'
    refine ⟨l, hl, ?_⟩
    split <;> rfl
  · intro b o ho
    refine ⟨s.network.notice o, ?_, rfl, rfl⟩
    rw [List.getElem?_map, ho, Option.map_some]

/-- It moves when an object is dropped. -/
theorem moves_dropObject (hn : s.network.Sound) (b : Nat) :
    s.network.Moves ((dropObject b : Act (Site σ ρ) Unit).run s).state.network := by
  refine (Network.Move.arrange _ (hn.fits.of_same fun o' ho' => ?_) ?_).moves
  · rcases exists_of_mem_modify ho' with ho' | ⟨o, ho, rfl⟩
    · exact ⟨o', ho', rfl, rfl, fun l hl => ⟨l, hl, rfl⟩⟩
    · refine ⟨o, List.mem_of_getElem? ho, rfl, rfl, fun l' hl' => ?_⟩
      obtain ⟨l, hl, rfl⟩ := List.mem_map.mp hl'
      exact ⟨l, hl, rfl⟩
  · exact kept_modify fun o => ⟨rfl, rfl⟩

/-- It moves when something is put into the directory. -/
theorem moves_obstruct (name : String) (e : FileEntry) : s.network.Moves (s.network.obstruct name e).2 := by
  unfold Network.obstruct
  simp only
  split
  · split
    · exact (Network.Move.tidy true _).moves
    · exact (Network.Move.tidy true _).moves
  · exact (Network.Move.tidy true _).moves

/-- Every step changes the network by moves. -/
theorem moves_act (hn : s.network.Sound) (a : SiteStep σ ρ) : s.network.Moves (a.act.run s).state.network := by
  cases a with
  | publish name service => simpa [SiteStep.act] using moves_publish name service
  | shutdown h => exact moves_shutdown hn h
  | lookup name => simpa [SiteStep.act] using moves_lookup hn name
  | link b r => simpa [SiteStep.act] using moves_link hn b r
  | transact b code data => simpa [SiteStep.act] using (usesObject_transact hn b code data).moves hn
  | write b bytes => exact (usesObject_write hn b bytes).moves hn
  | read b => exact (usesObject_read hn b).moves hn
  | watch => simpa [SiteStep.act] using moves_watch hn
  | drop b => exact moves_dropObject hn b
  | obstruct name directory => exact moves_obstruct name _
  | remove name => exact (Network.Move.tidy s.network.made _).moves
  | elsewhere f => exact .none

/-- So do many. -/
theorem moves_after (hn : s.network.Sound) (steps : List (SiteStep σ ρ)) : s.network.Moves (s.after steps).network := by
  induction steps generalizing s with
  | nil => exact .none
  | cons a steps ih =>
    have hmoves := moves_act hn a
    exact hmoves.trans (ih (hn.moves hmoves))

/-- It is sound after any steps. -/
theorem sound_after (backend : σ) (dir : String) (steps : List (SiteStep σ ρ)) :
    ((new backend dir : Site σ ρ).after steps).network.Sound :=
  (Network.sound_new dir).moves (moves_after (s := new backend dir) (Network.sound_new dir) steps)

end Site

/-! ## A site with one service -/

namespace OneService

/-- A service is published. -/
def published : Site Unit ρ :=
  (Site.new () "d").after [.publish "a" Service.echo]

/-- A client looks it up. -/
def found : Site Unit ρ :=
  published.after [.lookup "a"]

/-- The site with its one service, in one piece. -/
theorem published_eq : (published : Site Unit ρ) =
    ⟨(), "d", true, [("a", .socket (.host 0))], [⟨"a", Service.echo, true⟩], [], [], []⟩ := by cbv

theorem listener_published : (published : Site Unit ρ).network.listener? "a" = some 0 := by
  rw [published_eq]
  cbv

theorem found_eq_lookup : (found : Site Unit ρ) = ((Site.lookup "a").run published).state := by
  have hrun : (found : Site Unit ρ) = (((SiteStep.lookup "a").act : Act (Site Unit ρ) Unit).run published).state := rfl
  rw [hrun, SiteStep.act, Act.run_map]

/-- The site with an object that was looked up, in one piece. -/
theorem found_eq : (found : Site Unit ρ) =
    ⟨(), "d", true, [("a", .socket (.host 0))], [⟨"a", Service.echo, true⟩], [], [.fresh (.host 0)], [⟨"a", 0, true, []⟩]⟩ := by
  rw [found_eq_lookup, Site.run_lookup_of_listener listener_published, published_eq]
  rfl

end OneService

end Switchboard
