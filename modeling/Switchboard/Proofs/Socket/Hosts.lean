import Switchboard.Proofs.Socket.Publishing

/-!
# Hosts that share a directory

Hosts are published and shut down in one directory, in any order and under any names. A host is published in place of what lies
at its path, be it the socket of a host that still runs; that one cannot be reached any more, and the connection that is
meant to wake its loop for the shutdown goes to the new host, or to nobody.

`hosts_law` says what such runs come to (`Network.Tended`): the socket at a path is that of the last host published there, as
long as it runs; a shutdown ends a host that listens at its path, and waits forever for one that lost it
(`second_host_holds_up_first`); and no shutdown takes the path or a connection away from another host.

Each step of a run is a whole call: a publish and a shutdown do not overlap, in one process or in two, and every host has accepted
what was connected to it before the next call begins.
-/

namespace Switchboard

variable {σ ρ : Type}

/-! ## Runs -/

/-- A step of whoever has hosts. -/
inductive HostStep (σ : Type) where
  | publish (name : String) (service : Service σ)
  | shutdown (host : Nat)

/-- The step as one of anybody. -/
def HostStep.step : HostStep σ → SiteStep σ ρ
  | .publish name service => .publish name service
  | .shutdown h => .shutdown h

/-- The site after hosts were published and shut down. -/
def Site.tended (backend : σ) (dir : String) (steps : List (HostStep σ)) : Site σ ρ :=
  (Site.new backend dir).after (steps.map HostStep.step)

/-! ## The invariant -/

namespace Network

variable {n : Network σ ρ} {h : Nat} {host : Host σ}

/-- No later host was published at the path of a name. -/
def IsLatest (n : Network σ ρ) (h : Nat) (name : String) : Prop :=
  ∀ (g : Nat) (other : Host σ), n.hosts[g]? = some other → socketName other.name = socketName name → g ≤ h

/-- The socket of a host is the one at its path. -/
def Listens (n : Network σ ρ) (h : Nat) (name : String) : Prop :=
  n.entryAt? name = some (.socket (.host h))

/-- The invariant of runs of publications and shutdowns. -/
structure Tended (n : Network σ ρ) : Prop where
  unscripted : n.scripts = []
  addressed : ∀ (h : Nat) (host : Host σ), n.hosts[h]? = some host →
    n.isAddressable host.name = true ∧ isDots (socketName host.name) = false
  /-- The socket at a path is that of the last host published there, as long as it runs. -/
  listens : ∀ (h : Nat) (host : Host σ), n.hosts[h]? = some host →
    (n.Listens h host.name ↔ host.running = true ∧ n.IsLatest h host.name)
  /-- Every connection that is open is served. -/
  served : ∀ (c : Nat) (k : Connection), n.connections[c]? = some k →
    k.handler ≠ .stuck ∧ (k.closed = false → k.handler = .serving)

/-- A new network is tended. -/
theorem tended_new (dir : String) : (new dir : Network σ ρ).Tended where
  unscripted := rfl
  addressed := by simp [new]
  listens := by simp [new]
  served := by simp [new]

/-- A path has an address for one name if it has one for another. -/
theorem isAddressable_congr {name other : String} (hpath : socketName name = socketName other) :
    n.isAddressable name = n.isAddressable other := by
  rw [isAddressable, isAddressable, socketPath, socketPath, hpath]

/-- Names with one path have one entry. -/
theorem entryAt?_congr {name other : String} (hpath : socketName name = socketName other) :
    n.entryAt? name = n.entryAt? other := by
  rw [entryAt?, entryAt?, hpath]

/-- The network after a host was shut down that listened at the path of a name. -/
def ended (n : Network σ ρ) (h : Nat) (name : String) : Network σ ρ :=
  ({ n.closeAll (·.isOf h) with
    hosts := n.hosts.modify h fun host => { host with running := false } } : Network σ ρ).removeEntry name

/-- Who listens at a path has its socket there. -/
theorem entryAt?_of_listener {name : String} (hl : n.listener? name = some h) :
    n.entryAt? name = some (.socket (.host h)) := by
  unfold listener? at hl
  split at hl
  · split at hl
    · rename_i g hentry
      split at hl
      · obtain rfl := Option.some.inj hl
        exact hentry
      · cases hl
    · cases hl
  · cases hl

/-- Tidying the directory elsewhere keeps the invariant. -/
theorem Tended.tidy (hn : n.Tended) (made : Bool) {files : List (String × FileEntry)}
    (hfiles : ∀ (h : Nat) (host : Host σ), n.hosts[h]? = some host →
      files.lookup (socketName host.name) = n.files.lookup (socketName host.name)) :
    ({ n with made, files } : Network σ ρ).Tended where
  unscripted := hn.unscripted
  addressed := hn.addressed
  served := hn.served
  listens := by
    intro h host hh
    have hdots := (hn.addressed h host hh).2
    rw [Listens, entryAt?_of_not_dots hdots, hfiles h host hh, ← entryAt?_of_not_dots hdots]
    exact hn.listens h host hh

/-- Closing a connection keeps it as the invariant says. -/
theorem served_close {k : Connection} (hk : k.handler ≠ .stuck ∧ (k.closed = false → k.handler = .serving)) (p : Prop)
    [Decidable p] :
    (if p then k.close else k).handler ≠ .stuck ∧
      ((if p then k.close else k).closed = false → (if p then k.close else k).handler = .serving) := by
  split
  · refine ⟨?_, fun hopen => by cases hopen⟩
    rw [Connection.close, if_neg hk.1]
    simp
  · exact hk

/-- The hosts after one was shut down. -/
theorem host_ended {g : Nat} {name : String} {other : Host σ} (hg : (n.ended h name).hosts[g]? = some other) :
    ∃ before, n.hosts[g]? = some before ∧ other.name = before.name ∧
      (other.running = true ↔ before.running = true ∧ g ≠ h) := by
  change (n.hosts.modify h fun host => { host with running := false })[g]? = some other at hg
  rw [getElem?_shutdown] at hg
  obtain ⟨before, hbefore, rfl⟩ := Option.map_eq_some_iff.mp hg
  refine ⟨before, hbefore, ?_, ?_⟩
  · split <;> rfl
  · by_cases hgh : h = g
    · simp [hgh]
    · simp [hgh, Ne.symm hgh]

/-- No other host listens at the path of one that does. -/
theorem Tended.eq_of_listens (hn : n.Tended) {g : Nat} {other : Host σ} (hh : n.hosts[h]? = some host)
    (hg : n.hosts[g]? = some other) (hlistens : n.Listens h host.name) (hpath : socketName other.name = socketName host.name)
    (hlatest : n.IsLatest g other.name) : g = h := by
  have hle := ((hn.listens h host hh).mp hlistens).2 g other hg hpath
  have hge := hlatest h host hh hpath.symm
  exact Nat.le_antisymm hle hge

/-- A host that listens can end, and the network stays tended. -/
theorem Tended.ended (hn : n.Tended) (hh : n.hosts[h]? = some host) (hlistens : n.Listens h host.name) :
    (n.ended h host.name).Tended where
  unscripted := hn.unscripted
  addressed := by
    intro g other hg
    obtain ⟨before, hbefore, hname, -⟩ := host_ended hg
    rw [hname]
    exact hn.addressed g before hbefore
  listens := by
    intro g other hg
    obtain ⟨before, hbefore, hname, hrunning⟩ := host_ended hg
    have hdots := (hn.addressed g before hbefore).2
    have hlatest : (n.ended h host.name).IsLatest g other.name ↔ n.IsLatest g before.name := by
      rw [hname]
      constructor
      · intro hlatest g' other' hg' hsame
        have hg'' : (n.ended h host.name).hosts[g']? =
            some (if h = g' then { other' with running := false } else other') := by
          change (n.hosts.modify h fun host => { host with running := false })[g']? = _
          rw [getElem?_shutdown, hg', Option.map_some]
        refine hlatest g' _ hg'' ?_
        split <;> exact hsame
      · intro hlatest g' other' hg' hsame
        obtain ⟨before', hbefore', hname', -⟩ := host_ended hg'
        exact hlatest g' before' hbefore' (hname' ▸ hsame)
    rw [hrunning, hlatest, Listens, hname]
    by_cases hpath : socketName before.name = socketName host.name
    · -- nobody listens at the path any more, and of the other hosts there none is the last one
      have hgone : (n.ended h host.name).entryAt? before.name = none := by
        rw [entryAt?_congr hpath]
        exact entryAt?_removeEntry (hn.addressed h host hh).2
      rw [hgone]
      refine iff_of_false (by simp) ?_
      rintro ⟨⟨-, hne⟩, hlast⟩
      exact hne (hn.eq_of_listens hh hbefore hlistens hpath hlast)
    · have hkept : (n.ended h host.name).entryAt? before.name = n.entryAt? before.name :=
        entryAt?_removeEntry_of_ne hdots hpath
      have hne : g ≠ h := by
        rintro rfl
        obtain rfl := Option.some.inj (hbefore.symm.trans hh)
        exact hpath rfl
      rw [hkept, and_iff_left hne]
      exact hn.listens g before hbefore
  served := by
    intro c k hk
    change (n.closeAll (·.isOf h)).connections[c]? = some k at hk
    rw [getElem?_closeAll] at hk
    obtain ⟨before, hbefore, rfl⟩ := Option.map_eq_some_iff.mp hk
    exact served_close (hn.served c before hbefore) _

/-- It stays so when a host accepts. -/
theorem Tended.accept (hn : n.Tended) (g : Nat) : (n.accept g).2.Tended where
  unscripted := hn.unscripted
  addressed := hn.addressed
  listens := hn.listens
  served := by
    intro c k hk
    rcases Nat.lt_or_ge c n.connections.length with hc | hc
    · rw [getElem?_accept_of_lt hc] at hk
      obtain ⟨before, hbefore, rfl⟩ := Option.map_eq_some_iff.mp hk
      exact served_close (hn.served c before hbefore) _
    · have hlt := (List.getElem?_eq_some_iff.mp hk).1
      rw [length_accept] at hlt
      obtain rfl : c = n.connections.length := by omega
      obtain rfl := Option.some.inj (hk.symm.trans getElem?_accept_new)
      exact ⟨by simp [Connection.fresh], fun _ => rfl⟩

end Network

namespace Site

variable {s : Site σ ρ}

/-- The hosts after a publication: those before it, and the new one. -/
theorem host_withHost {name : String} {service : Service σ} {h : Nat} {host : Host σ}
    (hh : (s.withHost name service).network.hosts[h]? = some host) :
    s.network.hosts[h]? = some host ∨ h = s.network.hosts.length ∧ host = ⟨name, service, true⟩ := by
  change (s.network.hosts ++ [⟨name, service, true⟩])[h]? = some host at hh
  rcases Nat.lt_trichotomy h s.network.hosts.length with hlt | rfl | hgt
  · rw [List.getElem?_append_left hlt] at hh
    exact .inl hh
  · rw [List.getElem?_concat_length] at hh
    exact .inr ⟨rfl, (Option.some.inj hh).symm⟩
  · rw [List.getElem?_eq_none (by simpa using hgt)] at hh
    cases hh

/-- A new host takes the path of its name. -/
theorem tended_withHost (hn : s.network.Tended) {name : String} (service : Service σ)
    (haddress : s.network.isAddressable name = true) (hdots : isDots (socketName name) = false) :
    (s.withHost name service).network.Tended where
  unscripted := hn.unscripted
  addressed := by
    intro h host hh
    rcases host_withHost hh with hold | ⟨-, rfl⟩
    · exact hn.addressed h host hold
    · exact ⟨haddress, hdots⟩
  served := hn.served
  listens := by
    intro h host hh
    have hnew : (s.withHost name service).network.hosts[s.network.hosts.length]? = some ⟨name, service, true⟩ :=
      List.getElem?_concat_length
    have hentry : (s.withHost name service).network.entryAt? name = some (.socket (.host s.network.hosts.length)) :=
      Network.entryAt?_putEntry (n := s.network) _ hdots
    rcases host_withHost hh with hold | ⟨rfl, rfl⟩
    · have hlt := (List.getElem?_eq_some_iff.mp hold).1
      by_cases hpath : socketName host.name = socketName name
      · -- the host lost its path to the new one
        refine iff_of_false (fun hlistens => ?_) fun hlatest => ?_
        · rw [Network.Listens, Network.entryAt?_congr hpath, hentry] at hlistens
          have hsame : s.network.hosts.length = h := by injections
          exact Nat.ne_of_gt hlt hsame
        · exact absurd (hlatest.2 _ _ hnew hpath.symm) (Nat.not_le.mpr hlt)
      · have hkept : (s.withHost name service).network.entryAt? host.name = s.network.entryAt? host.name :=
          Network.entryAt?_putEntry_of_ne (n := s.network) _ (hn.addressed h host hold).2 hpath
        have hlatest : (s.withHost name service).network.IsLatest h host.name ↔ s.network.IsLatest h host.name := by
          constructor
          · intro hlatest g other hg hsame
            exact hlatest g other (Network.getElem?_hosts_of_lt hg) hsame
          · intro hlatest g other hg hsame
            rcases host_withHost hg with hg | ⟨-, rfl⟩
            · exact hlatest g other hg hsame
            · exact absurd hsame.symm hpath
        rw [Network.Listens, hkept, hlatest]
        exact hn.listens h host hold
    · refine iff_of_true hentry ⟨rfl, fun g other hg _ => ?_⟩
      rcases host_withHost hg with hg | ⟨rfl, -⟩
      · exact Nat.le_of_lt (List.getElem?_eq_some_iff.mp hg).1
      · exact Nat.le_refl _

/-- It stays so when a host is published. -/
theorem tended_publish (hn : s.network.Tended) (name : String) (service : Service σ) :
    ((publish name service).run s).state.network.Tended := by
  rcases publish_cases (s := s) name service with ⟨e, files, -, hstate, hfiles⟩ | ⟨-, hstate, haddress, hdots⟩
  · rw [hstate]
    refine hn.tidy true fun h host hh => ?_
    rcases hfiles with rfl | ⟨haddress, rfl⟩
    · rfl
    · refine Network.lookup_filter_of_ne fun hpath => ?_
      rw [← Network.isAddressable_congr hpath, (hn.addressed h host hh).1] at haddress
      cases haddress
  · rw [hstate]
    exact tended_withHost hn service haddress hdots

/-! ## Shutdowns -/

section Shutdown

variable {h : Nat} {host : Host σ}

/-- A host that listens at its path is shut down: its connections are closed, and its socket is removed. -/
theorem run_shutdown_of_listens (hn : s.network.Tended) (hh : s.network.hosts[h]? = some host)
    (hrunning : host.running = true) (hlistens : s.network.Listens h host.name) :
    ((shutdown h).run s).value = some () ∧
      ((shutdown h).run s).state = { s with network := s.network.ended h host.name } := by
  have hstuck : (s.network.connections.any fun c => c.isOf h && c.handler == .stuck) = false := by
    refine List.any_eq_false.mpr fun k hk => ?_
    obtain ⟨c, hc⟩ := List.getElem?_of_mem hk
    simp [(hn.served c k hc).1]
  rw [Network.Listens] at hlistens
  simp only [shutdown, Act.run_bind, Act.run_get, hh, hrunning, Bool.not_true, Bool.false_eq_true, if_false, hlistens,
    ne_eq, not_true_eq_false, run_change, hstuck]
  exact ⟨rfl, rfl⟩

/-- One that lost its path waits forever for its loop; whoever listens there is woken in its place. -/
theorem run_shutdown_of_lost (hh : s.network.hosts[h]? = some host) (hrunning : host.running = true)
    (hlost : ¬s.network.Listens h host.name) :
    ((shutdown h).run s).value = none ∧
      ((shutdown h).run s).state = { s with network := (s.network.connect host.name).2 } := by
  rw [Network.Listens] at hlost
  simp only [shutdown, Act.run_bind, Act.run_get, hh, hrunning, Bool.not_true, Bool.false_eq_true, if_false, ne_eq, hlost,
    not_false_eq_true, if_true, run_onNetwork, Act.run_hang]
  exact ⟨trivial, trivial⟩

/-- What a wake-up that misses its host leaves behind: it went nowhere, or to a host that runs. -/
theorem connect_cases (hn : s.network.Tended) (name : String) :
    (s.network.connect name).2 = s.network ∨ ∃ g, (s.network.connect name).2 = (s.network.accept g).2 := by
  cases hl : s.network.listener? name with
  | none =>
    obtain ⟨e, hconnect⟩ := Network.connect_of_no_listener hn.unscripted hl
    exact .inl (by rw [hconnect])
  | some g => exact .inr ⟨g, by rw [Network.connect_of_listener hl]⟩

/-- To shut down what does not run is nothing. -/
theorem run_shutdown_of_idle (hidle : ∀ host, s.network.hosts[h]? = some host → host.running = false) :
    (shutdown h).run s = ⟨some (), s, []⟩ := by
  cases hh : s.network.hosts[h]? with
  | none => simp [shutdown, Act.run_bind, hh]
  | some host => simp [shutdown, Act.run_bind, hh, hidle host hh]

/-- The network stays tended when a host is shut down, or its shutdown waits. -/
theorem tended_shutdown (hn : s.network.Tended) (h : Nat) : ((shutdown h).run s).state.network.Tended := by
  by_cases hrunning : ∃ host, s.network.hosts[h]? = some host ∧ host.running = true
  · obtain ⟨host, hh, hrunning⟩ := hrunning
    by_cases hlistens : s.network.Listens h host.name
    · rw [(run_shutdown_of_listens hn hh hrunning hlistens).2]
      exact hn.ended hh hlistens
    · rw [(run_shutdown_of_lost hh hrunning hlistens).2]
      rcases connect_cases hn host.name with hsame | ⟨g, haccept⟩
      · rw [hsame]
        exact hn
      · rw [haccept]
        exact hn.accept g
  · rw [run_shutdown_of_idle fun host hh => Bool.eq_false_iff.mpr fun h => hrunning ⟨host, hh, h⟩]
    exact hn

end Shutdown

/-- Every step keeps the invariant. -/
theorem tended_step (hn : s.network.Tended) (a : HostStep σ) :
    (((a.step : SiteStep σ ρ).act).run s).state.network.Tended := by
  cases a with
  | publish name service => simpa [HostStep.step, SiteStep.act] using tended_publish hn name service
  | shutdown h => exact tended_shutdown hn h

/-- So does a whole run. -/
theorem tended_after (hn : s.network.Tended) (steps : List (HostStep σ)) :
    (s.after (steps.map HostStep.step)).network.Tended := by
  induction steps generalizing s with
  | nil => exact hn
  | cons a steps ih => exact ih (tended_step hn a)

/-- A connection of another host is not touched by the closing of a host's. -/
theorem connection_ended {h c : Nat} {k : Connection} {name : String} {g : Nat} (hne : g ≠ h)
    (hk : s.network.connections[c]? = some k) (hserver : k.server = .host g) :
    (s.network.ended h name).connections[c]? = some k := by
  change (s.network.closeAll (·.isOf h)).connections[c]? = _
  rw [Network.getElem?_closeAll, hk, Option.map_some, if_neg (mt (Network.isOf_iff_of_server hserver).mp hne)]

/-- Nor is one that is open touched by a connection that is accepted; and the others are closed already. -/
theorem connection_accept (hn : s.network.Tended) (g : Nat) {c : Nat} {k : Connection}
    (hk : s.network.connections[c]? = some k) : (s.network.accept g).2.connections[c]? = some k := by
  rw [Network.getElem?_accept_of_lt (List.getElem?_eq_some_iff.mp hk).1, hk, Option.map_some]
  split
  · rename_i hended
    simp only [Bool.and_eq_true, beq_iff_eq] at hended
    have hclosed : k.closed = true := by
      rw [← Bool.not_eq_false]
      intro hopen
      have hserving := (hn.served c k hk).2 hopen
      rw [hended.2] at hserving
      cases hserving
    have hclose : k.close = k := by
      obtain ⟨-, hhandler⟩ := hended
      cases k
      simp only at hclosed hhandler
      simp [Connection.close, hclosed, hhandler]
    rw [hclose]
  · rfl

end Site

/-! ## The law -/

/-- What comes of hosts that share a directory, at one site. -/
structure HostLaw (s : Site σ ρ) : Prop where
  /-- The socket at the path of a host is its own if and only if it runs and no later host was published at that path. -/
  owns : ∀ (h : Nat) (host : Host σ), s.network.hosts[h]? = some host →
    (s.network.Listens h host.name ↔ host.running = true ∧ s.network.IsLatest h host.name)
  /-- A shutdown waits forever if and only if the host runs and a later one was published at its path. -/
  waits : ∀ h : Nat, ((Site.shutdown h).run s).value = none ↔
    ∃ host, s.network.hosts[h]? = some host ∧ host.running = true ∧ ¬s.network.IsLatest h host.name
  /-- The connection that is meant to wake the host does not reach it then. -/
  missed : ∀ (h : Nat) (host : Host σ), s.network.hosts[h]? = some host → host.running = true →
    ¬s.network.IsLatest h host.name → s.network.listener? host.name ≠ some h
  /-- Otherwise the host is down afterwards, its socket is gone and its connections are closed. -/
  ends : ∀ (h : Nat) (host : Host σ), s.network.hosts[h]? = some host → host.running = true →
    s.network.IsLatest h host.name →
    ((Site.shutdown h).run s).state.network.isRunning h = false ∧
      ((Site.shutdown h).run s).state.network.entryAt? host.name = none ∧
      ∀ (c : Nat) (k : Connection), ((Site.shutdown h).run s).state.network.connections[c]? = some k →
        k.server = .host h → k.closed = true
  /-- No shutdown takes the path or a connection away from another host that listens. This is about a shutdown that nothing else
  overlaps: a host that is published at the path while it is under way can lose its socket to it. -/
  spares : ∀ (h g : Nat) (other : Host σ), g ≠ h → s.network.hosts[g]? = some other → s.network.Listens g other.name →
    ((Site.shutdown h).run s).state.network.hosts[g]? = some other ∧
      ((Site.shutdown h).run s).state.network.Listens g other.name ∧
      ∀ (c : Nat) (k : Connection), s.network.connections[c]? = some k → k.server = .host g →
        ((Site.shutdown h).run s).state.network.connections[c]? = some k

/-- A tended network keeps the law of hosts. -/
theorem Site.hostLaw_of_tended {s : Site σ ρ} (hn : s.network.Tended) : HostLaw s := by
  -- a host that runs listens at its path unless a later one was published there
  have hlost : ∀ (h : Nat) (host : Host σ), s.network.hosts[h]? = some host →
      host.running = true → ¬s.network.IsLatest h host.name →
      ¬s.network.Listens h host.name := by
    intro h host hh hrunning hlater hlistens
    exact hlater ((hn.listens h host hh).mp hlistens).2
  constructor
  case owns => exact hn.listens
  case waits =>
    intro h
    constructor
    · intro hwaits
      by_contra hnone
      by_cases hrunning : ∃ host, s.network.hosts[h]? = some host ∧ host.running = true
      · obtain ⟨host, hh, hrunning⟩ := hrunning
        have hlatest : s.network.IsLatest h host.name :=
          not_not.mp fun hlater => hnone ⟨host, hh, hrunning, hlater⟩
        have hlistens := (hn.listens h host hh).mpr ⟨hrunning, hlatest⟩
        rw [(run_shutdown_of_listens hn hh hrunning hlistens).1] at hwaits
        cases hwaits
      · rw [run_shutdown_of_idle fun host hh => Bool.eq_false_iff.mpr fun h => hrunning ⟨host, hh, h⟩] at hwaits
        cases hwaits
    · rintro ⟨host, hh, hrunning, hlater⟩
      exact (run_shutdown_of_lost hh hrunning (hlost h host hh hrunning hlater)).1
  case missed =>
    intro h host hh hrunning hlater hlistener
    exact hlost h host hh hrunning hlater (Network.entryAt?_of_listener hlistener)
  case ends =>
    intro h host hh hrunning hlatest
    have hlistens := (hn.listens h host hh).mpr ⟨hrunning, hlatest⟩
    rw [(run_shutdown_of_listens hn hh hrunning hlistens).2]
    refine ⟨?_, Network.entryAt?_removeEntry (hn.addressed h host hh).2, ?_⟩
    · exact (Network.isRunning_shutdown h).trans (by simp)
    · intro c k hk hserver
      change (s.network.closeAll (·.isOf h)).connections[c]? = some k at hk
      rw [Network.getElem?_closeAll] at hk
      obtain ⟨before, -, rfl⟩ := Option.map_eq_some_iff.mp hk
      by_cases hof : before.isOf h = true
      · rw [if_pos hof]
        rfl
      · rw [if_neg hof] at hserver
        exact absurd (Network.isOf_eq_true_iff.mpr hserver) hof
  case spares =>
    intro h g other hne hg hlistens
    by_cases hrunning : ∃ host, s.network.hosts[h]? = some host ∧ host.running = true
    · obtain ⟨host, hh, hrunning⟩ := hrunning
      by_cases hown : s.network.Listens h host.name
      · rw [(run_shutdown_of_listens hn hh hrunning hown).2]
        have hpath : socketName other.name ≠ socketName host.name := fun hpath =>
          hne (hn.eq_of_listens hh hg hown hpath ((hn.listens g other hg).mp hlistens).2)
        refine ⟨?_, ?_, fun c k hk hserver => connection_ended hne hk hserver⟩
        · refine (Network.getElem?_shutdown _ g).trans ?_
          rw [hg, Option.map_some, if_neg (Ne.symm hne)]
        · exact (Network.entryAt?_removeEntry_of_ne (hn.addressed g other hg).2 hpath).trans hlistens
      · rw [(run_shutdown_of_lost hh hrunning hown).2]
        rcases connect_cases hn host.name with hsame | ⟨g', haccept⟩
        · rw [hsame]
          exact ⟨hg, hlistens, fun c k hk _ => hk⟩
        · rw [haccept]
          exact ⟨hg, hlistens, fun c k hk _ => connection_accept hn g' hk⟩
    · rw [run_shutdown_of_idle fun host hh => Bool.eq_false_iff.mpr fun h => hrunning ⟨host, hh, h⟩]
      exact ⟨hg, hlistens, fun c k hk _ => hk⟩

/-- The law of hosts that share a directory, after any publications and shutdowns, one at a time: none begins before the one before
it is over, and before every host has accepted what was connected to it. -/
theorem hosts_law (backend : σ) (dir : String) (steps : List (HostStep σ)) :
    HostLaw (Site.tended backend dir steps : Site σ ρ) := by
  have hstart : (Site.new backend dir : Site σ ρ).network.Tended := Network.tended_new dir
  exact Site.hostLaw_of_tended (Site.tended_after hstart steps)

/-! ### Two hosts of one name -/

namespace TwoHosts

/-- A host, and another one published in its place while it runs. -/
def steps : List (HostStep Unit) :=
  [.publish "a" Service.echo, .publish "a" Service.echo]

def site : Site Unit Unit :=
  Site.tended () "d" steps

/-- The site with both hosts, in one piece. -/
theorem site_eq : site =
    ⟨(), "d", true, [("a", .socket (.host 1))], [⟨"a", Service.echo, true⟩, ⟨"a", Service.echo, true⟩], [], [], []⟩ := by cbv

end TwoHosts

open TwoHosts

/-- Both hosts run; the connection that is to wake the first one goes to the second, and the shutdown of the first one waits
forever. -/
theorem second_host_holds_up_first :
    site.network.isRunning 0 = true ∧ site.network.isRunning 1 = true ∧ site.network.listener? "a" = some 1 ∧
      ((Site.shutdown 0).run site).value = none := by
  have hh : site.network.hosts[0]? = some ⟨"a", Service.echo, true⟩ := by
    rw [site_eq]
    rfl
  have hother : site.network.hosts[1]? = some ⟨"a", Service.echo, true⟩ := by
    rw [site_eq]
    rfl
  have hlistener : site.network.listener? "a" = some 1 := by
    rw [site_eq]
    cbv
  have hlost : ¬site.network.Listens 0 "a" := by
    intro hlistens
    rw [Network.Listens, Network.entryAt?_of_listener hlistener] at hlistens
    cases hlistens
  exact ⟨Network.isRunning_of_host hh, Network.isRunning_of_host hother, hlistener,
    (Site.run_shutdown_of_lost hh rfl hlost).1⟩

end Switchboard
