import Switchboard.Socket.Network

/-!
# Moves of a network

Whatever anybody does at a site, the network changes by a few kinds of moves (`Network.Move`): the directory is tidied, a host is
published or shut down, a connection is accepted or used, the clients' objects change. An invariant of all runs therefore needs
one case for each kind of move. The first of them is `Network.Sound`: every connection is one of a host and is closed once the
host is shut down, and the connection of a death link carries nothing and is no other object's.
-/

namespace Switchboard

variable {σ ρ : Type}

/-! ## Changed lists -/

/-- What was changed in a list at one place. -/
theorem exists_of_mem_modify {α : Type} {xs : List α} {b : Nat} {f : α → α} {y : α} (h : y ∈ xs.modify b f) :
    y ∈ xs ∨ ∃ x, xs[b]? = some x ∧ y = f x := by
  obtain ⟨i, hi⟩ := List.getElem?_of_mem h
  rw [List.getElem?_modify] at hi
  obtain ⟨x, hx, rfl⟩ := Option.map_eq_some_iff.mp hi
  by_cases hb : b = i
  · subst hb
    exact .inr ⟨x, hx, by simp⟩
  · rw [if_neg hb]
    exact .inl (List.mem_of_getElem? hx)

/-- Objects that are changed in one place keep their places, their names and their connections. -/
theorem kept_modify {objects : List (SocketObject ρ)} {b : Nat} {f : SocketObject ρ → SocketObject ρ}
    (hf : ∀ o, (f o).name = o.name ∧ (f o).connection = o.connection) (b' : Nat) (o : SocketObject ρ)
    (ho : objects[b']? = some o) :
    ∃ o', (objects.modify b f)[b']? = some o' ∧ o'.name = o.name ∧ o'.connection = o.connection := by
  rw [List.getElem?_modify, ho]
  by_cases hb : b = b'
  · exact ⟨f o, by simp [hb], hf o⟩
  · exact ⟨o, by simp [hb], rfl, rfl⟩

/-! ## Moves -/

/-- What a client and the handler may do to a connection: neither closes it, and a handler that left its loop, or is stuck, stays
so and answers nothing more. -/
structure Connection.Used (k k' : Connection) : Prop where
  server : k'.server = k.server
  closed : k'.closed = k.closed
  handler : k.handler ≠ .serving → k'.handler = k.handler
  arrived : k.handler ≠ .serving → Frame.next k.arrived = .incomplete → k'.arrived = k.arrived

namespace Network

/-- Whether something can be connected to at the path of a service, as far as the path is concerned. -/
def isAddressable (n : Network σ ρ) (name : String) : Bool :=
  !hasNul (socketPath n.dir name) && decide ((socketPath n.dir name).utf8ByteSize ≤ addressLimit)

/-- The connection of a death link carries nothing; it is served while its host runs, and closed afterwards. -/
def Watches (n : Network σ ρ) (l : DeathLink ρ) : Prop :=
  ∃ k h, n.connections[l.connection]? = some k ∧ k.server = .host h ∧ k.arrived = [] ∧
    (n.isRunning h = true → k.handler = .serving ∧ k.closed = false) ∧ (n.isRunning h = false → k.closed = true)

/-- What the clients' objects are like: their names have addresses and their connections are there, and those of the death links
are their own. -/
structure Fits (n : Network σ ρ) (objects : List (SocketObject ρ)) : Prop where
  addressed : ∀ o ∈ objects, n.isAddressable o.name = true
  connected : ∀ o ∈ objects, o.connection < n.connections.length
  watches : ∀ o ∈ objects, ∀ l ∈ o.links, n.Watches l
  apart : ∀ o ∈ objects, ∀ l ∈ o.links, ∀ o' ∈ objects, o'.connection ≠ l.connection

/-- A change of a network that some step may bring about. -/
inductive Move (n : Network σ ρ) : Network σ ρ → Prop where
  /-- The directory is another one. -/
  | tidy (made : Bool) (files : List (String × FileEntry)) : Move n { n with made, files }
  | publish (host : Host σ) : Move n { n with hosts := n.hosts ++ [host] }
  | accept (h : Nat) (running : n.isRunning h = true) : Move n (n.accept h).2
  /-- A connection is used that is no death link's. -/
  | use (c : Nat) (f : Connection → Connection) (used : ∀ k, n.connections[c]? = some k → k.Used (f k))
      (apart : ∀ o ∈ n.objects, ∀ l ∈ o.links, c ≠ l.connection) : Move n (n.updateConnection c f)
  /-- Objects are added, or change in all but their names and connections. -/
  | arrange (objects : List (SocketObject ρ)) (fits : n.Fits objects)
      (kept : ∀ (b : Nat) (o : SocketObject ρ), n.objects[b]? = some o →
        ∃ o', objects[b]? = some o' ∧ o'.name = o.name ∧ o'.connection = o.connection) : Move n { n with objects }
  | shutdown (h : Nat) :
      Move n { n.closeAll (·.isOf h) with hosts := n.hosts.modify h fun host => { host with running := false } }

/-- Changes one after another. -/
inductive Moves (n : Network σ ρ) : Network σ ρ → Prop where
  | none : Moves n n
  | more {m m' : Network σ ρ} : Moves n m → Move m m' → Moves n m'

theorem Move.moves {n m : Network σ ρ} (h : Move n m) : Moves n m :=
  .more .none h

/-- Moves go on from one another. -/
theorem Moves.trans {n m m' : Network σ ρ} (h : Moves n m) (h' : Moves m m') : Moves n m' := by
  induction h' with
  | none => exact h
  | more _ hmove ih => exact .more ih hmove

/-! ## Sound networks -/

/-- The invariant of all runs. -/
structure Sound (n : Network σ ρ) : Prop where
  unscripted : n.scripts = []
  /-- Every connection is one of a host; it is closed if the host was shut down, and a closed one is served no more. -/
  served : ∀ (c : Nat) (k : Connection), n.connections[c]? = some k → ∃ h host, k.server = .host h ∧
    n.hosts[h]? = some host ∧ (host.running = false → k.closed = true) ∧ (k.closed = true → k.handler ≠ .serving)
  fits : n.Fits n.objects

/-- A new network is sound. -/
theorem sound_new (dir : String) : (new dir : Network σ ρ).Sound where
  unscripted := rfl
  served := by simp [new]
  fits := ⟨by simp [new], by simp [new], by simp [new], by simp [new]⟩

/-! ### What the moves leave alone -/

variable {n : Network σ ρ} {objects : List (SocketObject ρ)} {c h : Nat}

/-- A number is that of a running host if there is one with it that runs. -/
theorem isRunning_eq_true_iff : n.isRunning h = true ↔ ∃ host, n.hosts[h]? = some host ∧ host.running = true := by
  simp [isRunning, Option.any_eq_true]

theorem isRunning_of_host {host : Host σ} (hh : n.hosts[h]? = some host) : n.isRunning h = host.running := by
  simp [isRunning, hh]

/-- A host that is there keeps its place when another one is published. -/
theorem getElem?_hosts_of_lt {hosts : List (Host σ)} {host added : Host σ} (hh : hosts[h]? = some host) :
    (hosts ++ [added])[h]? = some host := by
  rw [List.getElem?_append_left (List.getElem?_eq_some_iff.mp hh).1, hh]

/-- A connection is closed if it is one of those to close. -/
theorem getElem?_closeAll (p : Connection → Bool) :
    (n.closeAll p).connections[c]? = (n.connections[c]?).map fun k => if p k then k.close else k := by
  simp [closeAll]

/-- A connection is of a host if that serves it. -/
theorem isOf_eq_true_iff {k : Connection} : k.isOf h = true ↔ k.server = .host h := by
  unfold Connection.isOf
  cases k.server <;> simp

theorem isOf_iff_of_server {k : Connection} {g : Nat} (hserver : k.server = .host g) : k.isOf h = true ↔ g = h := by
  rw [isOf_eq_true_iff, hserver, Server.host.injEq]

/-- Nobody serves a connection that is closed. -/
theorem close_ne_serving (k : Connection) : k.close.handler ≠ .serving := by
  rw [Connection.close]
  split <;> simp

/-- The connection that is accepted comes last. -/
theorem getElem?_accept_new : (n.accept h).2.connections[n.connections.length]? = some (.fresh (.host h)) := by
  simp [accept, addConnection, closeAll]

theorem length_accept : (n.accept h).2.connections.length = n.connections.length + 1 := by
  simp [accept, addConnection, closeAll]

/-- Of the others, those that the host's handlers have left are closed. -/
theorem getElem?_accept_of_lt (hc : c < n.connections.length) :
    (n.accept h).2.connections[c]? =
      (n.connections[c]?).map fun k => if (k.isOf h && k.handler == .ended) = true then k.close else k := by
  have hlength : c < ((n.closeAll fun c => c.isOf h && c.handler == .ended).connections).length := by
    simpa [closeAll] using hc
  simp only [accept, addConnection]
  rw [List.getElem?_append_left hlength, getElem?_closeAll]

/-- Two changes of a connection are one. -/
theorem updateConnection_updateConnection (f g : Connection → Connection) :
    (n.updateConnection c f).updateConnection c g = n.updateConnection c fun k => g (f k) := by
  simp [updateConnection, List.modify_modify_eq, Function.comp_def]

theorem getElem?_updateConnection_self (f : Connection → Connection) :
    (n.updateConnection c f).connections[c]? = (n.connections[c]?).map f := by
  simp [updateConnection]

theorem getElem?_updateConnection_ne (f : Connection → Connection) {c' : Nat} (hc : c ≠ c') :
    (n.updateConnection c f).connections[c']? = n.connections[c']? := by
  simp [updateConnection, hc]

/-- Only the host that is shut down stops running. -/
theorem getElem?_shutdown (hosts : List (Host σ)) (g : Nat) :
    (hosts.modify h fun host => { host with running := false })[g]? =
      (hosts[g]?).map fun host => if h = g then { host with running := false } else host := by
  rw [List.getElem?_modify]
  split
  · rfl
  · simp

/-- So the others run as before. -/
theorem isRunning_shutdown (g : Nat) :
    ({ n.closeAll (·.isOf g) with hosts := n.hosts.modify g fun host => { host with running := false } }
      : Network σ ρ).isRunning h = (n.isRunning h && decide (g ≠ h)) := by
  simp only [isRunning, getElem?_shutdown]
  cases n.hosts[h]? with
  | none => rfl
  | some host => by_cases hg : g = h <;> simp [hg]

/-- Objects that fit a network fit any other one in which all of their links are watched as before. -/
theorem Fits.mono {n' : Network σ ρ} (hf : n.Fits objects) (hdir : n'.dir = n.dir)
    (hlength : n.connections.length ≤ n'.connections.length)
    (hwatches : ∀ o ∈ objects, ∀ l ∈ o.links, n.Watches l → n'.Watches l) : n'.Fits objects where
  addressed := by
    intro o ho
    rw [isAddressable, hdir]
    exact hf.addressed o ho
  connected := fun o ho => Nat.lt_of_lt_of_le (hf.connected o ho) hlength
  watches := fun o ho l hl => hwatches o ho l hl (hf.watches o ho l hl)
  apart := hf.apart

/-! ### Every move keeps a network sound -/

/-- A host may be added to a sound network. -/
theorem Sound.publish (hn : n.Sound) (host : Host σ) : ({ n with hosts := n.hosts ++ [host] } : Network σ ρ).Sound where
  unscripted := hn.unscripted
  served := by
    intro c k hk
    obtain ⟨h, host, hserver, hh, hclosed, hserved⟩ := hn.served c k hk
    exact ⟨h, host, hserver, getElem?_hosts_of_lt hh, hclosed, hserved⟩
  fits := by
    refine hn.fits.mono rfl (Nat.le_refl _) ?_
    rintro o - l - ⟨k, h, hk, hserver, harrived, hup, hdown⟩
    obtain ⟨h', host, hserver', hh, -, -⟩ := hn.served _ k hk
    obtain rfl : h = h' := Server.host.inj (hserver.symm.trans hserver')
    refine ⟨k, h, hk, hserver, harrived, ?_, ?_⟩
    all_goals
      rw [isRunning_of_host (getElem?_hosts_of_lt hh)]
      rw [isRunning_of_host hh] at hup hdown
    · exact hup
    · exact hdown

/-- A running host may accept a connection. -/
theorem Sound.accept (hn : n.Sound) (hr : n.isRunning h = true) : ((n.accept h).2).Sound := by
  obtain ⟨host, hh, hrunning⟩ := isRunning_eq_true_iff.mp hr
  constructor
  case unscripted => exact hn.unscripted
  case served =>
    intro c k hk
    rcases Nat.lt_or_ge c n.connections.length with hc | hc
    · rw [getElem?_accept_of_lt hc] at hk
      obtain ⟨k', hk', rfl⟩ := Option.map_eq_some_iff.mp hk
      obtain ⟨g, host', hserver, hg, hclosed, hserved⟩ := hn.served c k' hk'
      refine ⟨g, host', ?_, hg, ?_, ?_⟩
      all_goals split
      · exact hserver
      · exact hserver
      · exact fun _ => rfl
      · exact hclosed
      · exact fun _ => close_ne_serving k'
      · exact hserved
    · have hlt := (List.getElem?_eq_some_iff.mp hk).1
      rw [length_accept] at hlt
      obtain rfl : c = n.connections.length := by omega
      obtain rfl := Option.some.inj (hk.symm.trans getElem?_accept_new)
      refine ⟨h, host, rfl, hh, ?_, fun hclosed => by cases hclosed⟩
      intro hdown
      rw [hrunning] at hdown
      cases hdown
  case fits =>
    refine hn.fits.mono rfl (by rw [length_accept]; omega) ?_
    rintro o - l - ⟨k, g, hk, hserver, harrived, hup, hdown⟩
    -- the handler of a watched connection has not left its loop unless its host was shut down
    have hkept : ¬(k.isOf h && k.handler == .ended) = true := by
      intro hc
      simp only [Bool.and_eq_true, beq_iff_eq] at hc
      obtain rfl := (isOf_iff_of_server hserver).mp hc.1
      exact absurd ((hup hr).1.symm.trans hc.2) (by simp)
    refine ⟨k, g, ?_, hserver, harrived, hup, hdown⟩
    rw [getElem?_accept_of_lt (List.getElem?_eq_some_iff.mp hk).1, hk, Option.map_some, if_neg hkept]

/-- A connection of transactions may be used. -/
theorem Sound.use (hn : n.Sound) {f : Connection → Connection} (used : ∀ k, n.connections[c]? = some k → k.Used (f k))
    (apart : ∀ o ∈ n.objects, ∀ l ∈ o.links, c ≠ l.connection) : (n.updateConnection c f).Sound where
  unscripted := hn.unscripted
  served := by
    intro c' k hk
    by_cases hc : c = c'
    · subst hc
      rw [getElem?_updateConnection_self] at hk
      obtain ⟨k', hk', rfl⟩ := Option.map_eq_some_iff.mp hk
      obtain ⟨h, host, hserver, hh, hclosed, hserved⟩ := hn.served c k' hk'
      have hused := used k' hk'
      refine ⟨h, host, hused.server.trans hserver, hh, ?_, ?_⟩
      · exact fun hdown => hused.closed.trans (hclosed hdown)
      · intro hc
        have hleft := hserved (hused.closed.symm.trans hc)
        rw [hused.handler hleft]
        exact hleft
    · rw [getElem?_updateConnection_ne f hc] at hk
      exact hn.served c' k hk
  fits := by
    refine hn.fits.mono rfl (by simp [updateConnection]) ?_
    rintro o ho l hl ⟨k, h, hk, hwatched⟩
    exact ⟨k, h, (getElem?_updateConnection_ne f (apart o ho l hl)).trans hk, hwatched⟩

/-- A host may be shut down. -/
theorem Sound.shutdown (hn : n.Sound) (h : Nat) :
    ({ n.closeAll (·.isOf h) with hosts := n.hosts.modify h fun host => { host with running := false } }
      : Network σ ρ).Sound where
  unscripted := hn.unscripted
  served := by
    intro c k hk
    rw [getElem?_closeAll] at hk
    obtain ⟨k', hk', rfl⟩ := Option.map_eq_some_iff.mp hk
    obtain ⟨g, host, hserver, hg, hclosed, hserved⟩ := hn.served c k' hk'
    refine ⟨g, if h = g then { host with running := false } else host, ?_, ?_, ?_, ?_⟩
    · split <;> exact hserver
    · rw [getElem?_shutdown, hg, Option.map_some]
    · by_cases hgh : g = h
      · rw [if_pos ((isOf_iff_of_server hserver).mpr hgh)]
        exact fun _ => rfl
      · rw [if_neg (Ne.symm hgh), if_neg (mt (isOf_iff_of_server hserver).mp hgh)]
        exact hclosed
    · split
      · exact fun _ => close_ne_serving k'
      · exact hserved
  fits := by
    refine hn.fits.mono rfl (by simp [closeAll]) ?_
    rintro o - l - ⟨k, g, hk, hserver, harrived, hup, hdown⟩
    refine ⟨if k.isOf h then k.close else k, g, ?_, ?_, ?_, ?_⟩
    · rw [getElem?_closeAll, hk, Option.map_some]
    · split <;> exact hserver
    · split <;> exact harrived
    · rw [isRunning_shutdown]
      by_cases hgh : g = h
      · rw [if_pos ((isOf_iff_of_server hserver).mpr hgh), decide_eq_false (not_not_intro hgh.symm), Bool.and_false]
        exact ⟨(fun hup => by cases hup), fun _ => rfl⟩
      · rw [if_neg (mt (isOf_iff_of_server hserver).mp hgh), decide_eq_true (Ne.symm hgh), Bool.and_true]
        exact ⟨hup, hdown⟩

/-- Every move keeps the network sound. -/
theorem Sound.move {n' : Network σ ρ} (hn : n.Sound) (hm : n.Move n') : n'.Sound := by
  cases hm with
  | tidy made files => exact ⟨hn.unscripted, hn.served, hn.fits.mono rfl (Nat.le_refl _) fun _ _ _ _ hw => hw⟩
  | publish host => exact hn.publish host
  | accept h running => exact hn.accept running
  | use c f used apart => exact hn.use used apart
  | arrange objects fits kept =>
    exact ⟨hn.unscripted, hn.served, fits.mono rfl (Nat.le_refl _) fun _ _ _ _ hw => hw⟩
  | shutdown h => exact hn.shutdown h

/-- So do any moves. -/
theorem Sound.moves {n' : Network σ ρ} (hn : n.Sound) (hm : n.Moves n') : n'.Sound := by
  induction hm with
  | none => exact hn
  | more _ hmove ih => exact ih.move hmove

/-! ### What lasts -/

/-- The host that serves a connection. -/
def hostOf (n : Network σ ρ) (c : Nat) : Option Nat :=
  (n.connections[c]?).bind fun k =>
    match k.server with
    | .host h => some h
    | .script .. => none

/-- The host of a connection is the one that serves it. -/
theorem hostOf_eq_some_iff : n.hostOf c = some h ↔ ∃ k, n.connections[c]? = some k ∧ k.server = .host h := by
  unfold hostOf
  rw [Option.bind_eq_some_iff]
  refine exists_congr fun k => and_congr_right fun _ => ?_
  cases k.server <;> simp

/-- What a move does to a connection: it may close it or use it. -/
theorem Move.connection {n' : Network σ ρ} (hm : n.Move n') {k : Connection} (hk : n.connections[c]? = some k) :
    ∃ k', n'.connections[c]? = some k' ∧ (k' = k ∨ k' = k.close ∨ k.Used k') := by
  cases hm with
  | tidy made files => exact ⟨k, hk, .inl rfl⟩
  | publish host => exact ⟨k, hk, .inl rfl⟩
  | arrange objects fits kept => exact ⟨k, hk, .inl rfl⟩
  | accept g running =>
    refine ⟨if (k.isOf g && k.handler == .ended) = true then k.close else k, ?_, ?_⟩
    · rw [getElem?_accept_of_lt (List.getElem?_eq_some_iff.mp hk).1, hk, Option.map_some]
    · split
      · exact .inr (.inl rfl)
      · exact .inl rfl
  | use c' f used apart =>
    by_cases hcc : c' = c
    · subst hcc
      refine ⟨f k, ?_, .inr (.inr (used k hk))⟩
      rw [getElem?_updateConnection_self, hk, Option.map_some]
    · exact ⟨k, (getElem?_updateConnection_ne f hcc).trans hk, .inl rfl⟩
  | shutdown g =>
    refine ⟨if k.isOf g then k.close else k, ?_, ?_⟩
    · rw [getElem?_closeAll, hk, Option.map_some]
    · split
      · exact .inr (.inl rfl)
      · exact .inl rfl

/-- A connection stays with its host. -/
theorem Move.hostOf {n' : Network σ ρ} (hm : n.Move n') (hc : n.hostOf c = some h) : n'.hostOf c = some h := by
  obtain ⟨k, hk, hserver⟩ := hostOf_eq_some_iff.mp hc
  obtain ⟨k', hk', rfl | rfl | hused⟩ := hm.connection hk
  · exact hostOf_eq_some_iff.mpr ⟨_, hk', hserver⟩
  · exact hostOf_eq_some_iff.mpr ⟨_, hk', hserver⟩
  · exact hostOf_eq_some_iff.mpr ⟨k', hk', hused.server.trans hserver⟩

/-- A connection stays with its host. -/
theorem Moves.hostOf {n' : Network σ ρ} (hm : n.Moves n') (hc : n.hostOf c = some h) : n'.hostOf c = some h := by
  induction hm with
  | none => exact hc
  | more _ hmove ih => exact hmove.hostOf ih

/-- An object stays at its place, with its name and its connection. -/
theorem Moves.object {n' : Network σ ρ} (hm : n.Moves n') {b : Nat} {o : SocketObject ρ} (ho : n.objects[b]? = some o) :
    ∃ o', n'.objects[b]? = some o' ∧ o'.name = o.name ∧ o'.connection = o.connection := by
  induction hm with
  | none => exact ⟨o, ho, rfl, rfl⟩
  | more _ hmove ih =>
    obtain ⟨o', ho', hname, hconnection⟩ := ih
    cases hmove with
    | arrange objects fits kept =>
      obtain ⟨o'', ho'', hname', hconnection'⟩ := kept b o' ho'
      exact ⟨o'', ho'', hname'.trans hname, hconnection'.trans hconnection⟩
    | tidy | publish | accept | use | shutdown => exact ⟨o', ho', hname, hconnection⟩

theorem server_of_hostOf {k : Connection} (hhost : n.hostOf c = some h) (hk : n.connections[c]? = some k) :
    k.server = .host h := by
  obtain ⟨k', hk', hserver⟩ := hostOf_eq_some_iff.mp hhost
  obtain rfl := Option.some.inj (hk'.symm.trans hk)
  exact hserver

/-- A connection has the same host if only other things of it changed. -/
theorem hostOf_of_map {n' : Network σ ρ} {f : Connection → Connection}
    (hconnection : n'.connections[c]? = (n.connections[c]?).map f)
    (hf : ∀ k, n.connections[c]? = some k → (f k).server = k.server) : n'.hostOf c = n.hostOf c := by
  unfold hostOf
  rw [hconnection]
  cases hk : n.connections[c]? with
  | none => rfl
  | some k => rw [Option.map_some, Option.bind_some, Option.bind_some, hf k hk]

/-- Closing it changes nothing about that. -/
theorem hostOf_closeAll (p : Connection → Bool) (c : Nat) : (n.closeAll p).hostOf c = n.hostOf c := by
  refine hostOf_of_map (getElem?_closeAll p) fun k _ => ?_
  split <;> rfl

/-- A new one belongs to the host that accepts it. -/
theorem hostOf_accept (g c : Nat) :
    (n.accept g).2.hostOf c = if c = n.connections.length then some g else n.hostOf c := by
  rcases Nat.lt_trichotomy c n.connections.length with hlt | heq | hgt
  · rw [if_neg (Nat.ne_of_lt hlt)]
    refine hostOf_of_map (getElem?_accept_of_lt hlt) fun k _ => ?_
    split <;> rfl
  · subst heq
    rw [if_pos rfl]
    exact hostOf_eq_some_iff.mpr ⟨.fresh (.host g), getElem?_accept_new, rfl⟩
  · rw [if_neg (Nat.ne_of_gt hgt), hostOf, hostOf, List.getElem?_eq_none (by rw [length_accept]; omega),
      List.getElem?_eq_none (by omega)]

/-- Using it changes nothing about that. -/
theorem hostOf_updateConnection {f : Connection → Connection} {c' : Nat}
    (used : ∀ k, n.connections[c']? = some k → k.Used (f k)) (c : Nat) :
    (n.updateConnection c' f).hostOf c = n.hostOf c := by
  by_cases hc : c' = c
  · subst hc
    exact hostOf_of_map (getElem?_updateConnection_self f) fun k hk => (used k hk).server
  · rw [hostOf, hostOf, getElem?_updateConnection_ne f hc]

/-- In a sound network every connection is of a host. -/
theorem Sound.host_of_connection {c : Nat} {k : Connection} (hn : n.Sound) (hk : n.connections[c]? = some k) :
    ∃ h, k.server = .host h := by
  obtain ⟨h, -, hserver, -⟩ := hn.served c k hk
  exact ⟨h, hserver⟩

/-- The host of a connection that is open runs. -/
theorem Sound.isRunning_of_open (hn : n.Sound) {k : Connection} (hk : n.connections[c]? = some k)
    (hserver : k.server = .host h) (hopen : k.closed = false) : n.isRunning h = true := by
  obtain ⟨g, host, hserver', hh, hclosed, -⟩ := hn.served c k hk
  obtain rfl : h = g := Server.host.inj (hserver.symm.trans hserver')
  rw [isRunning_of_host hh]
  cases hr : host.running with
  | true => rfl
  | false => exact absurd (hclosed hr) (by simp [hopen])

/-- A connection that is served is open. -/
theorem Sound.open_of_serving (hn : n.Sound) {k : Connection} (hk : n.connections[c]? = some k)
    (hserving : k.handler = .serving) : k.closed = false := by
  obtain ⟨-, -, -, -, -, hserved⟩ := hn.served c k hk
  cases hclosed : k.closed with
  | false => rfl
  | true => exact absurd hserving (hserved hclosed)

/-! ### Connecting -/

/-- The host that accepts connections at the path of a service. -/
def listener? (n : Network σ ρ) (name : String) : Option Nat :=
  if n.isAddressable name then
    match n.entryAt? name with
    | some (.socket (.host h)) => if n.isRunning h then some h else none
    | _ => none
  else none

/-- Who listens runs. -/
theorem isRunning_of_listener {name : String} (hl : n.listener? name = some h) : n.isRunning h = true := by
  unfold listener? at hl
  split at hl
  · split at hl
    · split at hl
      · obtain rfl := Option.some.inj hl
        assumption
      · cases hl
    · cases hl
  · cases hl

/-- A name at whose path somebody listens can be addressed. -/
theorem isAddressable_of_listener {name : String} (hl : n.listener? name = some h) : n.isAddressable name = true := by
  unfold listener? at hl
  split at hl
  · assumption
  · cases hl

theorem accept_fst : (n.accept h).1 = n.connections.length := by
  simp [accept, addConnection, closeAll]

/-- A connection to a service is made with the host that listens at its path. -/
theorem connect_of_listener {name : String} (hl : n.listener? name = some h) :
    n.connect name = (.ok n.connections.length, (n.accept h).2) := by
  have haddr := isAddressable_of_listener hl
  simp only [isAddressable, Bool.and_eq_true, Bool.not_eq_true', decide_eq_true_eq] at haddr
  unfold listener? at hl
  rw [if_pos (isAddressable_of_listener hl)] at hl
  unfold connect
  rw [if_neg (by simp [haddr.1]), if_neg (Nat.not_lt.mpr haddr.2)]
  split at hl
  · rename_i g hentry
    rw [hentry]
    split at hl
    · rename_i hrunning
      obtain rfl := Option.some.inj hl
      simp only [hrunning, if_true, accept_fst]
    · cases hl
  · cases hl

/-- Where no host listens, and no scripted server, nothing is connected and nothing changes. -/
theorem connect_of_no_listener (hscripts : n.scripts = []) {name : String} (hl : n.listener? name = none) :
    ∃ e, n.connect name = (.error e, n) := by
  unfold connect
  split
  · exact ⟨_, rfl⟩
  · rename_i hnul
    split
    · exact ⟨_, rfl⟩
    · rename_i hlong
      have haddr : n.isAddressable name = true := by
        simp only [isAddressable, Bool.and_eq_true, Bool.not_eq_true', decide_eq_true_eq]
        exact ⟨Bool.eq_false_iff.mpr hnul, Nat.not_lt.mp hlong⟩
      rw [listener?, if_pos haddr] at hl
      split
      · exact ⟨_, rfl⟩
      · exact ⟨_, rfl⟩
      · exact ⟨_, rfl⟩
      · rename_i g hentry
        rw [hentry] at hl
        simp only [ite_eq_right_iff] at hl
        rw [if_neg fun hr => by cases hl hr]
        exact ⟨_, rfl⟩
      · rename_i g hentry
        simp only [hscripts, List.getElem?_nil]
        exact ⟨_, rfl⟩

/-! ### Objects that change -/

variable {objects' : List (SocketObject ρ)}

/-- Objects fit if they have the names and connections of objects that fit. -/
theorem Fits.of_same (hf : n.Fits objects)
    (h : ∀ o' ∈ objects', ∃ o ∈ objects, o'.name = o.name ∧ o'.connection = o.connection ∧
      ∀ l' ∈ o'.links, ∃ l ∈ o.links, l'.connection = l.connection) : n.Fits objects' where
  addressed := by
    intro o' ho'
    obtain ⟨o, ho, hname, -, -⟩ := h o' ho'
    rw [hname]
    exact hf.addressed o ho
  connected := by
    intro o' ho'
    obtain ⟨o, ho, -, hconnection, -⟩ := h o' ho'
    rw [hconnection]
    exact hf.connected o ho
  watches := by
    intro o' ho' l' hl'
    obtain ⟨o, ho, -, -, hlinks⟩ := h o' ho'
    obtain ⟨l, hl, hconnection⟩ := hlinks l' hl'
    rw [Watches, hconnection]
    exact hf.watches o ho l hl
  apart := by
    intro o' ho' l' hl' o₁ ho₁
    obtain ⟨o, ho, -, -, hlinks⟩ := h o' ho'
    obtain ⟨l, hl, hconnection⟩ := hlinks l' hl'
    obtain ⟨o₂, ho₂, -, hconnection₂, -⟩ := h o₁ ho₁
    rw [hconnection, hconnection₂]
    exact hf.apart o ho l hl o₂ ho₂

/-- The connection of a death link is there. -/
theorem Watches.lt {l : DeathLink ρ} (h : n.Watches l) : l.connection < n.connections.length := by
  obtain ⟨k, -, hk, -⟩ := h
  exact (List.getElem?_eq_some_iff.mp hk).1

/-- An object on a connection of its own fits. -/
theorem Fits.snoc (hf : n.Fits objects) {name : String} {c : Nat} (hname : n.isAddressable name = true)
    (hc : c < n.connections.length) (hfree : ∀ o ∈ objects, ∀ l ∈ o.links, c ≠ l.connection) :
    n.Fits (objects ++ [⟨name, c, true, []⟩]) where
  addressed := by
    intro o ho
    rcases List.mem_append.mp ho with ho | ho
    · exact hf.addressed o ho
    · exact List.mem_singleton.mp ho ▸ hname
  connected := by
    intro o ho
    rcases List.mem_append.mp ho with ho | ho
    · exact hf.connected o ho
    · exact List.mem_singleton.mp ho ▸ hc
  watches := by
    intro o ho l hl
    rcases List.mem_append.mp ho with ho | ho
    · exact hf.watches o ho l hl
    · rw [List.mem_singleton.mp ho] at hl
      cases hl
  apart := by
    intro o ho l hl o' ho'
    rcases List.mem_append.mp ho with ho | ho
    · rcases List.mem_append.mp ho' with ho' | ho'
      · exact hf.apart o ho l hl o' ho'
      · rw [List.mem_singleton.mp ho']
        exact hfree o ho l hl
    · rw [List.mem_singleton.mp ho] at hl
      cases hl

/-- A death link on a new connection fits. -/
theorem Fits.link (hf : n.Fits objects) {b : Nat} {l : DeathLink ρ} (hl : n.Watches l)
    (hfree : ∀ o ∈ objects, o.connection ≠ l.connection) :
    n.Fits (objects.modify b fun o => { o with links := o.links ++ [l] }) := by
  have hsame : ∀ o' ∈ objects.modify b fun o => { o with links := o.links ++ [l] }, ∃ o ∈ objects,
      o'.name = o.name ∧ o'.connection = o.connection ∧ ∀ l' ∈ o'.links, l' ∈ o.links ∨ l' = l := by
    intro o' ho'
    rcases exists_of_mem_modify ho' with ho' | ⟨o, ho, rfl⟩
    · exact ⟨o', ho', rfl, rfl, fun _ h => .inl h⟩
    · refine ⟨o, List.mem_of_getElem? ho, rfl, rfl, fun l' hl' => ?_⟩
      exact (List.mem_append.mp hl').imp_right List.mem_singleton.mp
  constructor
  case addressed =>
    intro o' ho'
    obtain ⟨o, ho, hname, -, -⟩ := hsame o' ho'
    exact hname ▸ hf.addressed o ho
  case connected =>
    intro o' ho'
    obtain ⟨o, ho, -, hconnection, -⟩ := hsame o' ho'
    exact hconnection ▸ hf.connected o ho
  case watches =>
    intro o' ho' l' hl'
    obtain ⟨o, ho, -, -, hlinks⟩ := hsame o' ho'
    rcases hlinks l' hl' with hl' | rfl
    · exact hf.watches o ho l' hl'
    · exact hl
  case apart =>
    intro o' ho' l' hl' o₁ ho₁
    obtain ⟨o, ho, -, -, hlinks⟩ := hsame o' ho'
    obtain ⟨o₂, ho₂, -, hconnection₂, -⟩ := hsame o₁ ho₁
    rw [hconnection₂]
    rcases hlinks l' hl' with hl' | rfl
    · exact hf.apart o ho l' hl' o₂ ho₂
    · exact hfree o₂ ho₂

end Network

end Switchboard
