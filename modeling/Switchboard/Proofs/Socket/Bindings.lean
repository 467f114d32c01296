import Switchboard.Proofs.Socket.Hosts
import Switchboard.Proofs.Socket.Transparency

/-!
# One provider of a service

`Network.Provides` is a network in which at most one host runs, the provider of a service, and whose watchers have told
everybody (`Network.Settled`). Publishing the provider, shutting it down, and binding a client to it keep the network so: a
lookup and a link one after the other (`Site.bound`) give an object that is connected to the provider and a link that is watched,
and after the shutdown the watchers tell the recipients of all links that are watched.
-/

namespace Switchboard

variable {σ ρ : Type}

/-! ## The watchers -/

namespace Network

variable {n : Network σ ρ}

/-- No link is watched whose host was shut down. -/
def Settled (n : Network σ ρ) : Prop :=
  ∀ o ∈ n.objects, ∀ l ∈ o.links, l.watched = true → n.isOrphaned l = false

/-- The hosts of links stay, so it matters only which hosts run. -/
theorem isOrphaned_of_moves {n' : Network σ ρ} (hm : n.Moves n') {l : DeathLink ρ} (hl : n.Watches l)
    (hrunning : ∀ h, n.hostOf l.connection = some h → n'.isRunning h = n.isRunning h) :
    n'.isOrphaned l = n.isOrphaned l := by
  obtain ⟨k, h, hk, hserver, -⟩ := hl
  have hhost : n.hostOf l.connection = some h := hostOf_eq_some_iff.mpr ⟨k, hk, hserver⟩
  rw [isOrphaned, isOrphaned, hhost, hm.hostOf hhost, Option.any_some, Option.any_some, hrunning h hhost]

/-- The invariant of hosts does not speak of clients. -/
theorem Tended.withObjects (hn : n.Tended) (objects : List (SocketObject ρ)) : ({ n with objects } : Network σ ρ).Tended :=
  ⟨hn.unscripted, hn.addressed, hn.listens, hn.served⟩

end Network

namespace Site

variable {s : Site σ ρ}

/-- When the watchers look, they give out the recipients whose connections have ended, and every object notices. -/
theorem run_watch : (watch : Act (Site σ ρ) (List ρ)).run s =
    ⟨some (s.network.objects.flatMap fun o => (o.links.filter s.network.hasEnded).map (·.recipient)),
      { s with network := { s.network with objects := s.network.objects.map s.network.notice } }, []⟩ :=
  rfl

/-- Nobody is told twice: when the watchers have looked, there is nobody left to be told. -/
theorem settled_watch (hn : s.network.Sound) : ((watch : Act (Site σ ρ) (List ρ)).run s).state.network.Settled := by
  intro o' ho' l' hl' hwatched
  obtain ⟨o, ho, rfl⟩ := List.mem_map.mp ho'
  obtain ⟨l, hl, rfl⟩ := List.mem_map.mp hl'
  have hended := (hn.fits.watches o ho l hl).hasEnded
  by_cases h : s.network.hasEnded l = true
  · rw [if_pos h] at hwatched
    cases hwatched
  · rw [if_neg h] at hwatched ⊢
    rw [hwatched, Bool.true_and] at hended
    exact hended ▸ Bool.eq_false_iff.mpr h

/-- The watchers do nothing where everybody was told. -/
theorem run_watch_of_settled (hn : s.network.Sound) (hsettled : s.network.Settled) :
    (watch : Act (Site σ ρ) (List ρ)).run s = ⟨some [], s, []⟩ := by
  have hended : ∀ o ∈ s.network.objects, ∀ l ∈ o.links, s.network.hasEnded l = false := by
    intro o ho l hl
    rw [(hn.fits.watches o ho l hl).hasEnded]
    cases hwatched : l.watched with
    | false => rfl
    | true => rw [hsettled o ho l hl hwatched, Bool.and_false]
  have hnobody : (s.network.objects.flatMap fun o => (o.links.filter s.network.hasEnded).map (·.recipient)) = [] := by
    refine List.flatMap_eq_nil_iff.mpr fun o ho => ?_
    rw [List.filter_eq_nil_iff.mpr fun l hl => by simp [hended o ho l hl], List.map_nil]
  have hsame : s.network.objects.map s.network.notice = s.network.objects := by
    refine (List.map_congr_left fun o ho => ?_).trans (List.map_id _)
    have halive : (o.links.any s.network.hasEnded) = false :=
      List.any_eq_false.mpr fun l hl => by simp [hended o ho l hl]
    have hlinks : (o.links.map fun l => if s.network.hasEnded l then { l with watched := false } else l) = o.links :=
      (List.map_congr_left fun l hl => by rw [hended o ho l hl]; rfl).trans (List.map_id _)
    rw [Network.notice, halive, hlinks]
    simp
  rw [run_watch, hnobody, hsame]

end Site

/-! ## The provider of a service -/

/-- At most one host runs, the provider of the service, and everybody was told of the deaths of the others. -/
structure Network.Provides (n : Network σ ρ) (name : String) (service : Service σ) (live : Option Nat) : Prop where
  sound : n.Sound
  tended : n.Tended
  settled : n.Settled
  sole : ∀ (g : Nat) (host : Host σ), n.hosts[g]? = some host → host.running = true → live = some g
  listens : ∀ h, live = some h → n.hosts[h]? = some ⟨name, service, true⟩ ∧ n.Listens h name
  free : live = none → n.entryAt? name = none

namespace Network.Provides

variable {n n' : Network σ ρ} {name : String} {service : Service σ} {live : Option Nat} {h : Nat}

/-- The one live host listens. -/
theorem listener (hn : n.Provides name service (some h)) : n.listener? name = some h := by
  obtain ⟨hhost, hlistens⟩ := hn.listens h rfl
  have haddress := (hn.tended.addressed h _ hhost).1
  have hrunning := isRunning_of_host hhost
  rw [listener?, if_pos haddress, hlistens]
  simp only
  rw [if_pos hrunning]

/-- Where there is none, nobody does. -/
theorem no_listener (hn : n.Provides name service none) : n.listener? name = none := by
  rw [listener?, hn.free rfl]
  split <;> rfl

/-- No other host runs. -/
theorem isRunning_iff (hn : n.Provides name service live) (g : Nat) : n.isRunning g = true ↔ live = some g := by
  constructor
  · intro hrunning
    obtain ⟨host, hhost, hrunning⟩ := isRunning_eq_true_iff.mp hrunning
    exact hn.sole g host hhost hrunning
  · intro hlive
    exact isRunning_of_host (hn.listens g hlive).1

/-- The host of a watched link is the provider. -/
theorem hostOf_watched (hn : n.Provides name service live) {o : SocketObject ρ} {l : DeathLink ρ} (ho : o ∈ n.objects)
    (hl : l ∈ o.links) (hwatched : l.watched = true) : ∃ h, live = some h ∧ n.hostOf l.connection = some h := by
  obtain ⟨k, h, hk, hserver, -⟩ := hn.sound.fits.watches o ho l hl
  have hhost : n.hostOf l.connection = some h := hostOf_eq_some_iff.mpr ⟨k, hk, hserver⟩
  have hspared := hn.settled o ho l hl hwatched
  rw [isOrphaned, hhost, Option.any_some, Bool.not_eq_false'] at hspared
  exact ⟨h, (hn.isRunning_iff h).mp hspared, hhost⟩

end Network.Provides

/-- A new network has no host. -/
theorem Network.provides_new (dir name : String) (service : Service σ) :
    (Network.new dir : Network σ ρ).Provides name service none where
  sound := Network.sound_new dir
  tended := Network.tended_new dir
  settled o ho := by simp [Network.new] at ho
  sole g host h := by simp [Network.new] at h
  listens h hh := by cases hh
  free _ := by
    rw [Network.entryAt?]
    split <;> rfl

namespace Site

variable {s : Site σ ρ} {name : String} {service : Service σ} {live : Option Nat} {h : Nat}

/-! ### Publishing it -/

/-- The name of a socket is no longer than its path. -/
theorem utf8ByteSize_socketName_le (dir name : String) :
    (socketName name).utf8ByteSize ≤ (socketPath dir name).utf8ByteSize := by
  rw [socketPath, joinPath]
  split
  · exact Nat.le_refl _
  · split <;> simp only [String.utf8ByteSize_append] <;> omega

/-- A publication at an address where nothing lies is not refused. -/
theorem run_publish_of_free (service : Service σ) (haddress : s.network.isAddressable name = true)
    (hfree : s.network.entryAt? name = none) (hdots : isDots (socketName name) = false) :
    ((publish name service).run s).value = some (.ok s.network.hosts.length) ∧
      ((publish name service).run s).state = s.withHost name service := by
  obtain ⟨hnul, hlength⟩ := Bool.and_eq_true_iff.mp haddress
  have hlength : (socketPath s.network.dir name).utf8ByteSize ≤ 107 := of_decide_eq_true hlength
  have hpart := utf8ByteSize_socketName_le s.network.dir name
  have hshort : ¬(pathLimit < (socketPath s.network.dir name).utf8ByteSize ∨ partLimit < (socketName name).utf8ByteSize) := by
    simp only [pathLimit, partLimit]
    omega
  have hnothing : ({ s.network with made := true } : Network σ ρ).entryAt? name = none := by
    rw [Network.entryAt?_of_not_dots hdots] at hfree ⊢
    exact hfree
  simp only [publish, Act.run_bind, run_change, Act.run_get]
  rw [if_neg (by simpa using hnul), if_neg hshort]
  simp only [hnothing]
  rw [if_neg (show ¬Network.addressLimit < (socketPath s.network.dir name).utf8ByteSize from Nat.not_lt.mpr hlength)]
  simp [withHost, Act.run_bind, Network.putEntry]

/-- A publication makes the one live host. -/
theorem provides_publish (hn : s.network.Provides name service none) (haddress : s.network.isAddressable name = true)
    (hdots : isDots (socketName name) = false) :
    (s.withHost name service).network.Provides name service (some s.network.hosts.length) := by
  obtain ⟨-, hstate⟩ := run_publish_of_free service haddress (hn.free rfl) hdots
  have hmoves := moves_publish (s := s) name service
  rw [hstate] at hmoves
  constructor
  case sound => exact hn.sound.moves hmoves
  case tended => exact tended_withHost hn.tended service haddress hdots
  case settled =>
    -- nobody ran before, so no link is watched
    intro o ho l hl hwatched
    obtain ⟨h, hlive, -⟩ := hn.hostOf_watched ho hl hwatched
    cases hlive
  case sole =>
    intro g host hg hrunning
    rcases host_withHost hg with hg | ⟨rfl, -⟩
    · cases hn.sole g host hg hrunning
    · rfl
  case listens =>
    rintro h ⟨⟩
    exact ⟨List.getElem?_concat_length, Network.entryAt?_putEntry (n := s.network) _ hdots⟩
  case free => exact nofun

/-! ### Shutting it down -/

/-- When the provider was shut down, the watchers tell the recipients of all links that are watched. -/
theorem run_shutdown_of_provides (hn : s.network.Provides name service (some h)) :
    ∃ t recipients, ((shutdown h).run s).value = some () ∧
      (watch : Act (Site σ ρ) (List ρ)).run ((shutdown h).run s).state = ⟨some recipients, t, []⟩ ∧
      t.network.Provides name service none ∧ t.backend = s.backend ∧ t.network.dir = s.network.dir ∧
      ∀ b i l, s.HasLink b i l → l.watched = true → l.recipient ∈ recipients := by
  obtain ⟨hhost, hlistens⟩ := hn.listens h rfl
  obtain ⟨hvalue, hstate⟩ := run_shutdown_of_listens hn.tended hhost rfl hlistens
  have hmoves := moves_shutdown hn.sound h
  have htended := hn.tended.ended hhost hlistens
  rw [hstate] at hmoves
  have hsound := hn.sound.moves hmoves
  have hdown : ∀ (g : Nat) (host : Host σ), (s.network.ended h name).hosts[g]? = some host → host.running = false := by
    intro g host hg
    obtain ⟨before, hbefore, -, hrunning⟩ := Network.host_ended hg
    rw [Bool.eq_false_iff, ne_eq, hrunning]
    rintro ⟨hran, hother⟩
    exact hother (Option.some.inj (hn.sole g before hbefore hran)).symm
  refine ⟨⟨s.backend, { s.network.ended h name with objects := _ }⟩, _, hvalue, by rw [hstate, run_watch], ?_, rfl, rfl,
    ?_⟩
  · constructor
    case sound =>
      have hwatch := hsound.moves (moves_watch (s := { s with network := s.network.ended h name }) hsound)
      exact hwatch
    case tended => exact htended.withObjects _
    case settled => exact settled_watch (s := { s with network := s.network.ended h name }) hsound
    case sole =>
      intro g host hg hrunning
      rw [hdown g host hg] at hrunning
      cases hrunning
    case listens => exact nofun
    case free => exact fun _ => Network.entryAt?_removeEntry (hn.tended.addressed h _ hhost).2
  · rintro b i l ⟨o, ho, hl⟩ hwatched
    have hmem := List.mem_of_getElem? ho
    have hlmem := List.mem_of_getElem? hl
    obtain ⟨g, hlive, hof⟩ := hn.hostOf_watched hmem hlmem hwatched
    obtain rfl := Option.some.inj hlive
    have hnotrunning : (s.network.ended h name).isRunning h = false := by
      rw [← Bool.not_eq_true, Network.isRunning_eq_true_iff]
      rintro ⟨host, hg, hrunning⟩
      rw [hdown h host hg] at hrunning
      cases hrunning
    have horphaned : (s.network.ended h name).isOrphaned l = true := by
      rw [Network.isOrphaned, hmoves.hostOf hof, Option.any_some, hnotrunning]
      rfl
    have hended : (s.network.ended h name).hasEnded l = true := by
      rw [(hsound.fits.watches o hmem l hlmem).hasEnded, hwatched, horphaned]
      rfl
    exact List.mem_flatMap.mpr ⟨o, hmem, List.mem_map.mpr ⟨l, List.mem_filter.mpr ⟨hlmem, hended⟩, rfl⟩⟩

/-! ### Binding a client to it -/

/-- The site after a lookup and a link on what it found. -/
def bound (s : Site σ ρ) (name : String) (r : ρ) : Site σ ρ :=
  ((link s.network.objects.length r).run ((lookup name).run s).state).state

section Bound

variable (hn : s.network.Provides name service (some h)) (r : ρ)

include hn

/-- The object as the lookup left it. -/
theorem object_lookup : ((lookup name).run s).state.network.objects[s.network.objects.length]? =
    some ⟨name, s.network.connections.length, true, []⟩ :=
  (lookup_found hn.sound hn.listener).2.2.1

/-- The site after a lookup and a link at the live host, in one piece. -/
theorem bound_eq : s.bound name r =
    { s with network := ((((lookup name).run s).state.network.accept h).2.updateObject s.network.objects.length fun o =>
      { o with links := o.links ++ [⟨s.network.connections.length + 1, r, true⟩] }) } := by
  have hlength : ((lookup name).run s).state.network.connections.length = s.network.connections.length + 1 := by
    rw [run_lookup_of_listener hn.listener]
    exact Network.length_accept
  have hlink := run_link_of_listener r (object_lookup hn) rfl (listener_lookup hn.listener)
  rw [bound, hlink, hlength, run_lookup_of_listener hn.listener]

/-- Its objects are those from before and the new one with its link. -/
theorem objects_bound : (s.bound name r).network.objects =
    (s.network.objects ++ [⟨name, s.network.connections.length, true, []⟩] : List (SocketObject ρ)).modify
      s.network.objects.length fun o => { o with links := o.links ++ [⟨s.network.connections.length + 1, r, true⟩] } := by
  rw [bound_eq hn, run_lookup_of_listener hn.listener]
  rfl

/-- Its hosts are those from before. -/
theorem hosts_bound : (s.bound name r).network.hosts = s.network.hosts := by
  rw [bound_eq hn, run_lookup_of_listener hn.listener]
  rfl

/-- So is its directory. -/
theorem dir_bound : (s.bound name r).network.dir = s.network.dir := by
  rw [bound_eq hn, run_lookup_of_listener hn.listener]
  rfl

/-- The network has only moved there. -/
theorem moves_bound : s.network.Moves (s.bound name r).network := by
  have hlookup := moves_lookup hn.sound name
  exact hlookup.trans (moves_link (hn.sound.moves hlookup) s.network.objects.length r)

/-- Nobody has called the service. -/
theorem backend_bound : (s.bound name r).backend = s.backend := by
  rw [bound_eq hn]

/-- The live host is still the one. -/
theorem provides_bound : (s.bound name r).network.Provides name service (some h) := by
  have hmoves := moves_bound hn r
  have hsound := hn.sound.moves hmoves
  have hhosts := hosts_bound hn r
  have hfiles : ∀ other, (s.bound name r).network.entryAt? other = s.network.entryAt? other := by
    intro other
    rw [bound_eq hn, run_lookup_of_listener hn.listener]
    rfl
  have hrunning : ∀ g, (s.bound name r).network.isRunning g = s.network.isRunning g := by
    intro g
    rw [Network.isRunning, hhosts, Network.isRunning]
  constructor
  case sound => exact hsound
  case tended =>
    rw [bound_eq hn, run_lookup_of_listener hn.listener]
    exact (((hn.tended.accept h).withObjects _).accept h).withObjects _
  case settled =>
    intro o ho l hl hwatched
    rw [objects_bound hn] at ho
    rcases exists_of_mem_modify ho with ho | ⟨before, hbefore, rfl⟩
    · rcases List.mem_append.mp ho with ho | ho
      · rw [Network.isOrphaned_of_moves hmoves (hn.sound.fits.watches o ho l hl) fun g _ => hrunning g]
        exact hn.settled o ho l hl hwatched
      · obtain rfl := List.mem_singleton.mp ho
        cases hl
    · rw [List.getElem?_concat_length] at hbefore
      obtain rfl := Option.some.inj hbefore
      obtain rfl := List.mem_singleton.mp hl
      have hhost := hostOf_link r (object_lookup hn) rfl (listener_lookup hn.listener)
      have hlength : ((lookup name).run s).state.network.connections.length = s.network.connections.length + 1 := by
        rw [run_lookup_of_listener hn.listener]
        exact Network.length_accept
      rw [hlength] at hhost
      rw [Network.isOrphaned, show (s.bound name r).network.hostOf (s.network.connections.length + 1) = some h from hhost,
        Option.any_some, hrunning, (hn.isRunning_iff h).mpr rfl]
      rfl
  case sole => exact hhosts ▸ hn.sole
  case listens =>
    intro g hg
    obtain ⟨hhost, hlistens⟩ := hn.listens g hg
    exact ⟨hhosts ▸ hhost, (hfiles name).trans hlistens⟩
  case free => exact fun hnone => absurd hnone (Option.some_ne_none h)

/-- The new object is connected to the provider. -/
theorem connected_bound : (s.bound name r).Connected s.network.objects.length service := by
  obtain ⟨hhost, -⟩ := hn.listens h rfl
  have htended : ((lookup name).run s).state.network.Tended := by
    rw [run_lookup_of_listener hn.listener]
    exact (hn.tended.accept h).withObjects _
  have hfresh : ((lookup name).run s).state.network.connections[s.network.connections.length]? =
      some (.fresh (.host h)) := by
    rw [run_lookup_of_listener hn.listener]
    exact Network.getElem?_accept_new
  have hobject : (s.bound name r).network.objects[s.network.objects.length]? =
      some ⟨name, s.network.connections.length, true, [⟨s.network.connections.length + 1, r, true⟩]⟩ := by
    rw [objects_bound hn, List.getElem?_modify, List.getElem?_concat_length]
    simp
  have hconnection : (s.bound name r).network.connections[s.network.connections.length]? = some (.fresh (.host h)) := by
    rw [bound_eq hn]
    exact connection_accept htended h hfresh
  refine ⟨_, .fresh (.host h), h, ⟨name, service, true⟩, hobject, rfl, hconnection, ⟨rfl, rfl, rfl, rfl, rfl⟩, ?_, rfl,
    rfl⟩
  rw [hosts_bound hn]
  exact hhost

/-- The new link is watched. -/
theorem hasLink_bound : ∃ l, (s.bound name r).HasLink s.network.objects.length 0 l ∧ l.recipient = r ∧ l.watched = true :=
  ⟨_, hasLink_link r (object_lookup hn) rfl (listener_lookup hn.listener), rfl, rfl⟩

end Bound

end Site

end Switchboard
