import Switchboard.Proofs.Power.Queries

/-!
# Two worlds side by side

In the one world the provider of the power statistics is a host and is found through sockets, in the other it is an object of
the process and is found in its registry. `Parallel` says that both have a provider or neither has, with nobody left to be told
of a death, and `Paired` that two caches of one number stand alike: unresolved, or resolved to the provider and linked to its
death. What is done in both worlds keeps them parallel: publishing, shutting down, getting a handle, and asking, which comes to
the same but for the translation of errors.
-/

namespace Switchboard

variable {σ : Type}

/-! ## Providers -/

namespace World

/-- Publishes or registers a service, and returns the number of the host or of the object. -/
def provide (name : String) (service : Service σ) : Registrar → Act (World σ) (Option Nat)
  | .process => some <$> onDirectory (·.register name service)
  | .sockets => Except.toOption <$> onSite (Site.publish name service)

/-- Shuts a host down, or kills an object. -/
def retire (n : Nat) : Registrar → Act (World σ) Unit
  | .process => kill n
  | .sockets => onSite (Site.shutdown n)

end World

/-! ## The registry of the process -/

/-- At most one object lives, the provider of the service, and it refuses nothing. -/
structure World.Holds (w : World σ) (name : String) (service : Service σ) (live : Option Nat) : Prop where
  manual : w.manual = []
  unwatched : w.network.objects = []
  sole : ∀ i o, w.directory.object? i = some o → o.alive = true → live = some i
  named : ∀ i, live = some i → w.directory.named? name = some i
  answers : ∀ i, live = some i → ∃ o, w.directory.object? i = some o ∧ o.alive = true ∧ o.failTransactions = false ∧
    o.failLinks = false ∧ o.service = service

namespace World.Holds

variable {w w' : World σ} {name : String} {service : Service σ} {i : Nat} {live : Option Nat}

/-- The state of the services and the caches do not matter, nor how often a name was looked up. -/
theorem congr (h : w.Holds name service live) (hmanual : w'.manual = w.manual)
    (hobjects : w'.network.objects = w.network.objects) (hnames : w'.directory.names = w.directory.names)
    (hlocals : w'.directory.objects = w.directory.objects) : w'.Holds name service live := by
  have hobject : ∀ i, w'.directory.object? i = w.directory.object? i := fun i => by
    rw [Directory.object?, Directory.object?, hlocals]
  constructor
  case manual => exact hmanual.trans h.manual
  case unwatched => exact hobjects.trans h.unwatched
  case sole => exact fun i o ho => h.sole i o (hobject i ▸ ho)
  case named =>
    intro i hi
    rw [Directory.named?, hnames]
    exact h.named i hi
  case answers =>
    intro i hi
    rw [hobject]
    exact h.answers i hi

/-- A lookup finds the live object of the name. -/
theorem find (h : w.Holds name service (some i)) : w.directory.find? name = some i := by
  obtain ⟨o, ho, halive, -⟩ := h.answers i rfl
  exact Directory.find?_eq_some_iff.mpr ⟨h.named i rfl, o, ho, halive⟩

/-- It finds nothing where nobody holds the name. -/
theorem no_find (h : w.Holds name service none) : w.directory.find? name = none := by
  rw [Option.eq_none_iff_forall_ne_some]
  intro i hi
  obtain ⟨-, o, ho, halive⟩ := Directory.find?_eq_some_iff.mp hi
  cases h.sole i o ho halive

/-- Who registers under a free name holds it. -/
theorem register (h : w.Holds name service none) :
    (w.withDirectory (w.directory.register name service).2).Holds name service (some w.directory.objects.length) := by
  constructor
  case manual => exact h.manual
  case unwatched => exact h.unwatched
  case sole =>
    intro i o ho halive
    rw [directory_withDirectory, Directory.object?_register] at ho
    split at ho
    · next hi => rw [hi]
    · cases h.sole i o ho halive
  case named =>
    rintro i ⟨⟩
    simp [Directory.register, Directory.named?]
  case answers =>
    rintro i ⟨⟩
    refine ⟨.new name service, ?_, rfl, rfl, rfl, rfl⟩
    rw [directory_withDirectory, Directory.object?_register, if_pos rfl]

/-- One object may change in what it counts and whom it tells. -/
theorem update (h : w.Holds name service live) (j : Nat)
    {f : LocalObject σ Recipient → LocalObject σ Recipient}
    (hf : ∀ o, w.directory.object? j = some o → (f o).alive = o.alive ∧ (f o).failTransactions = o.failTransactions ∧
      (f o).failLinks = o.failLinks ∧ (f o).service = o.service) :
    (w.withDirectory (w.directory.update j f)).Holds name service live := by
  constructor
  case manual => exact h.manual
  case unwatched => exact h.unwatched
  case sole =>
    intro i o ho halive
    rw [directory_withDirectory, Directory.object?_update] at ho
    split at ho
    · next hi =>
      obtain ⟨before, hbefore, rfl⟩ := Option.map_eq_some_iff.mp ho
      exact h.sole i before hbefore ((hf before (hi ▸ hbefore)).1 ▸ halive)
    · exact h.sole i o ho halive
  case named => exact h.named
  case answers =>
    intro i hi
    obtain ⟨o, ho, halive, htransactions, hlinks, hservice⟩ := h.answers i hi
    rw [directory_withDirectory, Directory.object?_update]
    split
    · next hj =>
      obtain ⟨falive, ftransactions, flinks, fservice⟩ := hf o (hj ▸ ho)
      exact ⟨f o, by rw [ho, Option.map_some], falive.trans halive, ftransactions.trans htransactions,
        flinks.trans hlinks, fservice.trans hservice⟩
    · exact ⟨o, ho, halive, htransactions, hlinks, hservice⟩

/-- Nobody lives when the provider was killed. -/
theorem kill (h : w.Holds name service (some i)) (o : LocalObject σ Recipient) :
    (w.withDirectory (w.directory.update i fun _ => o.ended)).Holds name service none := by
  constructor
  case manual => exact h.manual
  case unwatched => exact h.unwatched
  case sole =>
    intro j o' ho' halive
    rw [directory_withDirectory, Directory.object?_update] at ho'
    split at ho'
    · obtain ⟨before, -, rfl⟩ := Option.map_eq_some_iff.mp ho'
      cases halive
    · next hj => exact absurd (Option.some.inj (h.sole j o' ho' halive)) hj
  case named => exact nofun
  case answers => exact nofun

end World.Holds

/-! ## The two worlds -/

/-- The world of the sockets and that of the process, side by side, with the provider that lives in each. -/
structure Parallel (service : Service σ) (live : Option (Nat × Nat)) (w v : World σ) : Prop where
  provides : w.network.Provides powerServiceName service (live.map (·.1))
  holds : v.Holds powerServiceName service (live.map (·.2))
  backend : w.backend = v.backend
  length : w.caches.length = v.caches.length

/-- Two caches of one number: both unresolved, or both resolved to the provider and linked to its death. -/
inductive Paired (service : Service σ) (live : Option (Nat × Nat)) (w v : World σ) (n : Nat) : Prop where
  | unresolved (generation : Nat)
      (left : w.caches[n]? = some ⟨.sockets, powerServiceName, ⟨none, generation⟩, false⟩)
      (right : v.caches[n]? = some ⟨.process, powerServiceName, ⟨none, generation⟩, false⟩)
  | resolved (generation h i b : Nat) (provider : live = some (h, i))
      (left : w.caches[n]? =
        some ⟨.sockets, powerServiceName, ⟨some ⟨⟨n, generation, .socket b⟩, generation⟩, generation⟩, false⟩)
      (right : v.caches[n]? =
        some ⟨.process, powerServiceName, ⟨some ⟨⟨n, generation, .process i⟩, generation⟩, generation⟩, false⟩)
      (connected : w.site.Connected b service)
      (linked : ∃ l, w.site.HasLink b 0 l ∧ l.recipient = .cache n generation ∧ l.watched = true)
      (pending : ∃ o, v.directory.object? i = some o ∧ o.alive = true ∧ .cache n generation ∈ o.recipients)

/-- What a `get` gives in the two worlds: nothing, or handles to objects of the provider. -/
inductive SameHandle (service : Service σ) (live : Option (Nat × Nat)) (w : World σ) :
    Option Handle → Option Handle → Prop where
  | missed : SameHandle service live w none none
  | found (n generation h i b : Nat) (provider : live = some (h, i)) (connected : w.site.Connected b service) :
    SameHandle service live w (some ⟨n, generation, .socket b⟩) (some ⟨n, generation, .process i⟩)

section Worlds

variable {service : Service σ} {live : Option (Nat × Nat)} {w v w' v' : World σ} {n : Nat}

/-- Caches may be added and dropped on both sides. -/
theorem Parallel.withCaches (hp : Parallel service live w v) {caches caches' : List CacheCell}
    (hlength : caches.length = caches'.length) : Parallel service live { w with caches } { v with caches := caches' } :=
  ⟨hp.provides, hp.holds.congr rfl rfl rfl rfl, hp.backend, hlength⟩

/-- Two caches stay paired if they, the sockets and the objects stay as they are. -/
theorem Paired.congr (hn : Paired service live w v n) (hleft : w'.caches[n]? = w.caches[n]?)
    (hright : v'.caches[n]? = v.caches[n]?) (hnetwork : w'.network = w.network)
    (hobjects : ∀ i o, v.directory.object? i = some o → ∃ o', v'.directory.object? i = some o' ∧ o'.alive = o.alive ∧
      o'.recipients = o.recipients) : Paired service live w' v' n := by
  cases hn with
  | unresolved generation left right => exact .unresolved generation (hleft.trans left) (hright.trans right)
  | resolved generation h i b provider left right connected linked pending =>
    refine .resolved generation h i b provider (hleft.trans left) (hright.trans right) (connected.of_network_eq hnetwork) ?_ ?_
    · obtain ⟨l, hl, hrecipient, hwatched⟩ := linked
      exact ⟨l, hl.of_objects_eq (congrArg Network.objects hnetwork), hrecipient, hwatched⟩
    · obtain ⟨o, ho, halive, hpending⟩ := pending
      obtain ⟨o', ho', halive', hrecipients⟩ := hobjects i o ho
      exact ⟨o', ho', halive'.trans halive, hrecipients ▸ hpending⟩

/-! ### Getting handles -/

section Bound

variable {h i : Nat} {o : LocalObject σ Recipient} (hp : Parallel service (some (h, i)) w v) {generation : Nat}
  (ho : v.directory.object? i = some o)

include hp ho

/-- Binding a cache to the provider in both worlds. -/
theorem Parallel.bound (n generation : Nat) (cache cache' : Cache Handle) :
    Parallel service (some (h, i)) ((w.withSite (w.site.bound powerServiceName (.cache n generation))).withCache n cache)
      ((v.withDirectory ((v.directory.lookup powerServiceName).2.update i fun _ => o.accept (.cache n generation))).withCache
        n cache') := by
  have hprovides : w.site.network.Provides powerServiceName service (some h) := hp.provides
  have hlooked : (v.withDirectory (v.directory.lookup powerServiceName).2).Holds powerServiceName service (some i) :=
    hp.holds.congr rfl rfl rfl rfl
  have hholds := hlooked.update i (f := fun _ => o.accept (.cache n generation)) fun o' ho' => by
    obtain rfl := Option.some.inj (ho.symm.trans ho')
    exact ⟨rfl, rfl, rfl, rfl⟩
  constructor
  case provides => exact Site.provides_bound hprovides _
  case holds => exact hholds.congr rfl rfl rfl rfl
  case backend => exact (Site.backend_bound hprovides _).trans hp.backend
  case length =>
    rw [World.length_caches_withCache, World.length_caches_withCache]
    exact hp.length

/-- Then they are paired. -/
theorem Parallel.paired_bound
    (left : w.caches[n]? = some ⟨.sockets, powerServiceName, ⟨none, generation⟩, false⟩)
    (right : v.caches[n]? = some ⟨.process, powerServiceName, ⟨none, generation⟩, false⟩) (halive : o.alive = true) :
    Paired service (some (h, i))
      ((w.withSite (w.site.bound powerServiceName (.cache n (generation + 1)))).withCache n
        ⟨some ⟨⟨n, generation + 1, .socket w.network.objects.length⟩, generation + 1⟩, generation + 1⟩)
      ((v.withDirectory ((v.directory.lookup powerServiceName).2.update i fun _ =>
        o.accept (.cache n (generation + 1)))).withCache n
        ⟨some ⟨⟨n, generation + 1, .process i⟩, generation + 1⟩, generation + 1⟩) n := by
  have hprovides : w.site.network.Provides powerServiceName service (some h) := hp.provides
  have hself := Directory.object?_update_self (d := (v.directory.lookup powerServiceName).2) ho fun _ =>
    o.accept (.cache n (generation + 1))
  refine .resolved (generation + 1) h i w.network.objects.length rfl ?_ ?_ (Site.connected_bound hprovides _)
    (Site.hasLink_bound hprovides _) ⟨_, hself, halive, by simp [LocalObject.accept]⟩
  · exact World.getElem?_caches_withCache_self (w := w.withSite _) left _
  · exact World.getElem?_caches_withCache_self (w := v.withDirectory _) right _

end Bound

/-- The same cache gets a handle in both worlds or in neither. -/
theorem Parallel.get (hp : Parallel service live w v) (hn : Paired service live w v n) :
    ∃ w' v' left right, ((World.cacheGet n).run w).value = some left ∧ ((World.cacheGet n).run w).state = w' ∧
      ((World.cacheGet n).run v).value = some right ∧ ((World.cacheGet n).run v).state = v' ∧
      Parallel service live w' v' ∧ Paired service live w' v' n ∧ SameHandle service live w' left right ∧
      w'.backend = w.backend ∧ w'.network.dir = w.network.dir := by
  cases hn with
  | resolved generation h i b provider left right connected linked pending =>
    obtain ⟨hv, hs⟩ := World.run_cacheGet_of_resolved left rfl
    obtain ⟨hv', hs'⟩ := World.run_cacheGet_of_resolved right rfl
    exact ⟨w, v, _, _, hv, hs, hv', hs', hp, .resolved generation h i b provider left right connected linked pending,
      .found n generation h i b provider connected, rfl, rfl⟩
  | unresolved generation left right =>
    cases live with
    | none =>
      obtain ⟨hv, hs⟩ := World.run_cacheGet_of_unheard left rfl rfl hp.provides.sound.unscripted hp.provides.no_listener
      obtain ⟨hv', hs'⟩ := World.run_cacheGet_of_missed hp.holds.manual right rfl rfl hp.holds.no_find
      exact ⟨w, _, none, none, hv, hs, hv', hs', ⟨hp.provides, hp.holds.congr rfl rfl rfl rfl, hp.backend, hp.length⟩,
        .unresolved generation left right, .missed, rfl, rfl⟩
    | some provider =>
      obtain ⟨h, i⟩ := provider
      obtain ⟨o, ho, halive, -, hlinks, -⟩ := hp.holds.answers i rfl
      obtain ⟨hv, hs⟩ := World.run_cacheGet_of_heard left rfl rfl hp.provides
      obtain ⟨hv', hs'⟩ := World.run_cacheGet_of_linked hp.holds.manual right rfl rfl hp.holds.find ho halive hlinks
      have hbound := hp.bound ho n (generation + 1)
      have hpaired := hp.paired_bound ho left right halive
      exact ⟨_, _, _, _, hv, hs, hv', hs', hbound _ _, hpaired,
        .found n (generation + 1) h i _ rfl (Site.connected_bound hp.provides _),
        Site.backend_bound hp.provides _, Site.dir_bound hp.provides _⟩

/-! ### Asking -/

/-- A transaction comes to the same in both worlds, errors in translation. -/
theorem Parallel.transact {h i b : Nat} (hp : Parallel service (some (h, i)) w v) (hn : Paired service (some (h, i)) w v n)
    (hc : w.site.Connected b service) {code : UInt32} {data : Json} (hrequest : HostRequest.Carried code data)
    (hreply : ∀ r, ((service code data).run w.backend).value = some r → HostReply.Carried r) :
    ((World.transact (.socket b) code data).run w).value =
        ((World.transact (.process i) code data).run v).value.map (·.mapError .acrossSocket) ∧
      ((World.transact (.socket b) code data).run w).state.backend =
        ((World.transact (.process i) code data).run v).state.backend ∧
      (((World.transact (.socket b) code data).run w).value ≠ none →
        Parallel service (some (h, i)) ((World.transact (.socket b) code data).run w).state
            ((World.transact (.process i) code data).run v).state ∧
          Paired service (some (h, i)) ((World.transact (.socket b) code data).run w).state
            ((World.transact (.process i) code data).run v).state n ∧
          ((World.transact (.socket b) code data).run w).state.network.dir = w.network.dir) := by
  obtain ⟨o, ho, halive, htransactions, -, hservice⟩ := hp.holds.answers i rfl
  have hprocess := World.run_transact_process ⟨o, ho, halive, htransactions, hservice⟩ code data
  rw [World.run_transact_socket, hprocess, ← hp.backend]
  cases hr : ((service code data).run w.backend).value with
  | none =>
    obtain ⟨hvalue, hbackend⟩ := Site.run_transact_of_hang hc hrequest hr
    rw [hvalue]
    exact ⟨rfl, hbackend, fun hcame => absurd rfl hcame⟩
  | some r =>
    have hrun := Site.run_transact_of_connected hc hrequest hr (hreply r hr)
    have hholds := hp.holds.update i (f := (·.count)) fun o _ => ⟨rfl, rfl, rfl, rfl⟩
    rw [hrun]
    refine ⟨rfl, rfl, fun _ => ⟨⟨hp.provides, ?_, rfl, hp.length⟩, hn.congr rfl rfl rfl fun j o ho => ?_, rfl⟩⟩
    · exact hholds.congr rfl rfl rfl rfl
    · change ∃ o', (v.directory.update i (·.count)).object? j = some o' ∧ _
      rw [Directory.object?_update]
      split
      · exact ⟨o.count, by rw [ho, Option.map_some], rfl, rfl⟩
      · exact ⟨o, ho, rfl, rfl⟩

/-! ### Settling -/

/-- The watchers never wait. -/
theorem World.value_settle (w : World σ) : (World.settle.run w).value = some () :=
  (World.run_settle (congrArg Outcome.value Site.run_watch)).1

/-- Nobody is told where there are no objects of the sockets. -/
theorem World.state_settle_of_unwatched (h : v.network.objects = []) : (World.settle.run v).state = v := by
  have hobjects : v.site.network.objects = [] := h
  have hsame : ({ v.site.network with objects := [] } : Network σ Recipient) = v.site.network := by rw [← hobjects]
  have hwatch : (Site.watch : Act (Site σ Recipient) (List Recipient)).run v.site = ⟨some [], v.site, []⟩ := by
    rw [Site.run_watch, hobjects, List.flatMap_nil, List.map_nil, hsame]
  obtain ⟨-, hstate⟩ := World.run_settle (w := v) (congrArg Outcome.value hwatch)
  rw [hwatch, World.told_nil] at hstate
  exact hstate

/-- Between the steps there is nobody left to be told. -/
theorem Parallel.settle (hp : Parallel service live w v) :
    (World.settle.run w).state = w ∧ (World.settle.run v).state = v := by
  have hleft := Site.run_watch_of_settled (s := w.site) hp.provides.sound hp.provides.settled
  obtain ⟨-, hstate⟩ := World.run_settle (w := w) (congrArg Outcome.value hleft)
  rw [hleft, World.told_nil] at hstate
  exact ⟨hstate, World.state_settle_of_unwatched hp.holds.unwatched⟩

/-! ### Publishing and shutting down -/

/-- Caches that hold nothing are a pair, whatever becomes of the service. -/
theorem Paired.of_none (hn : Paired service none w v n) (hleft : w'.caches[n]? = w.caches[n]?)
    (hright : v'.caches[n]? = v.caches[n]?) : Paired service live w' v' n := by
  cases hn with
  | unresolved generation left right => exact .unresolved generation (hleft.trans left) (hright.trans right)
  | resolved generation h i b provider => cases provider

/-- The name of the service is an entry of a directory. -/
theorem isDots_powerServiceName : isDots (socketName powerServiceName) = false := by
  decide

/-- The provider is published in both worlds. -/
theorem Parallel.publish {hal : PowerStats σ} (hp : Parallel (PowerStats.stub hal) none w v)
    (haddress : w.network.isAddressable powerServiceName = true) :
    ∃ w' v' h i, ((World.provide powerServiceName (PowerStats.stub hal) .sockets).run w).value = some (some h) ∧
      ((World.provide powerServiceName (PowerStats.stub hal) .sockets).run w).state = w' ∧
      ((World.provide powerServiceName (PowerStats.stub hal) .process).run v).value = some (some i) ∧
      ((World.provide powerServiceName (PowerStats.stub hal) .process).run v).state = v' ∧
      Parallel (PowerStats.stub hal) (some (h, i)) w' v' ∧ w'.caches = w.caches ∧ v'.caches = v.caches ∧
      w'.network.dir = w.network.dir := by
  obtain ⟨hvalue, hstate⟩ := Site.run_publish_of_free (s := w.site) (PowerStats.stub hal) haddress
    (hp.provides.free rfl) isDots_powerServiceName
  have hprovides := Site.provides_publish (s := w.site) hp.provides haddress isDots_powerServiceName
  refine ⟨w.withSite (w.site.withHost powerServiceName (PowerStats.stub hal)), _, w.network.hosts.length,
    v.directory.objects.length, ?_, ?_, rfl, rfl, ⟨hprovides, hp.holds.register, hp.backend, hp.length⟩, rfl, rfl, rfl⟩
  · rw [World.provide, Act.run_map, World.run_onSite, hvalue]
    rfl
  · rw [World.provide, Act.run_map, World.run_onSite, hstate]

/-- The provider is shut down in both worlds, and both caches are told. -/
theorem Parallel.retire {h i : Nat} (hp : Parallel service (some (h, i)) w v) :
    ∃ w' v', ((World.retire h .sockets).run w).value = some () ∧
      (World.settle.run ((World.retire h .sockets).run w).state).state = w' ∧
      ((World.retire i .process).run v).value = some () ∧
      (World.settle.run ((World.retire i .process).run v).state).state = v' ∧
      Parallel service none w' v' ∧ (∀ n, Paired service (some (h, i)) w v n → Paired service none w' v' n) ∧
      w'.network.dir = w.network.dir := by
  have hprovides : w.site.network.Provides powerServiceName service (some h) := hp.provides
  obtain ⟨t, recipients, hshutdown, hwatch, hquiet, hbackend, hdir, htold⟩ := Site.run_shutdown_of_provides hprovides
  obtain ⟨o, ho, halive, -⟩ := hp.holds.answers i rfl
  obtain ⟨hkilled, hkill⟩ := World.run_kill i v
  rw [Directory.kill_of_alive ho halive] at hkill
  have hsettle := World.run_settle (w := w.withSite ((Site.shutdown h).run w.site).state)
    (by rw [World.site_withSite, hwatch])
  rw [World.site_withSite, hwatch] at hsettle
  have hgone := hp.holds.kill o
  have hunwatched : ((v.withDirectory (v.directory.update i fun _ => o.ended)).told o.recipients).network.objects = [] :=
    hp.holds.unwatched
  have hsame := World.state_settle_of_unwatched hunwatched
  refine ⟨(w.withSite t).told recipients, (v.withDirectory (v.directory.update i fun _ => o.ended)).told o.recipients,
    hshutdown, hsettle.2, hkilled, ?_, ⟨hquiet, ?_, ?_, ?_⟩, ?_, hdir⟩
  · rw [World.retire, hkill]
    exact hsame
  · exact hgone.congr rfl rfl rfl rfl
  · exact hbackend.trans hp.backend
  · rw [World.length_caches_told, World.length_caches_told]
    exact hp.length
  · intro n hn
    cases hn with
    | unresolved generation left right =>
      refine .unresolved generation ?_ ?_
      · rw [World.getElem?_caches_told_of_cell (w := w.withSite t) left, CacheCell.told_of_unresolved rfl]
      · rw [World.getElem?_caches_told_of_cell (w := v.withDirectory (v.directory.update i fun _ => o.ended)) right,
          CacheCell.told_of_unresolved rfl]
    | resolved generation h' i' b provider left right connected linked pending =>
      obtain ⟨rfl, rfl⟩ := Prod.mk.inj (Option.some.inj provider)
      obtain ⟨l, hl, hrecipient, hwatched⟩ := linked
      obtain ⟨o', ho', -, hpending⟩ := pending
      obtain rfl := Option.some.inj (ho.symm.trans ho')
      have hmem : .cache n generation ∈ recipients := hrecipient ▸ htold b 0 l hl hwatched
      refine .unresolved generation ?_ ?_
      · rw [World.getElem?_caches_told_of_cell (w := w.withSite t) left, CacheCell.told_of_mem rfl rfl hmem]
      · rw [World.getElem?_caches_told_of_cell (w := v.withDirectory (v.directory.update i fun _ => o.ended)) right,
          CacheCell.told_of_mem rfl rfl hpending]

/-- Nobody who lives is shut down where nobody does. -/
theorem Parallel.retire_of_none (hp : Parallel service none w v) (h i : Nat) :
    (World.retire h .sockets).run w = ⟨some (), w, []⟩ ∧
      ((World.retire i .process).run v).value = some () ∧ ((World.retire i .process).run v).state = v := by
  have hidle : ∀ (host : Host σ), w.site.network.hosts[h]? = some host → host.running = false := by
    intro host hh
    refine Bool.eq_false_iff.mpr fun hrunning => ?_
    cases hp.provides.sole h host hh hrunning
  have hdead : ∀ o, v.directory.object? i = some o → o.alive = false := by
    intro o ho
    refine Bool.eq_false_iff.mpr fun halive => ?_
    cases hp.holds.sole i o ho halive
  obtain ⟨hvalue, hstate⟩ := World.run_kill i v
  rw [Directory.kill_of_dead hdead, World.told_nil] at hstate
  refine ⟨?_, hvalue, hstate⟩
  rw [World.retire, World.run_onSite, Site.run_shutdown_of_idle hidle]
  rfl

/-! ### The facade -/

variable {f g : PowerFacade}

/-- Dropping another cache leaves a pair alone. -/
theorem Paired.withoutCache? (hn : Paired service live w v n) {old : Option Nat} (hold : ∀ m, old = some m → m ≠ n) :
    Paired service live (w.withoutCache? old) (v.withoutCache? old) n := by
  cases old with
  | none => exact hn
  | some m =>
    refine hn.congr ?_ ?_ rfl fun i o ho => ⟨o, ho, rfl, rfl⟩
    · exact (World.getElem?_caches_withoutCache m n).trans (if_neg (hold m rfl))
    · exact (World.getElem?_caches_withoutCache m n).trans (if_neg (hold m rfl))

/-- Dropping a cache on both sides keeps the worlds parallel. -/
theorem Parallel.withoutCache (hp : Parallel service live w v) (n : Nat) :
    Parallel service live (w.withoutCache n) (v.withoutCache n) :=
  hp.withCaches (by rw [List.length_modify, List.length_modify, hp.length])

theorem Parallel.withoutCache? (hp : Parallel service live w v) (old : Option Nat) :
    Parallel service live (w.withoutCache? old) (v.withoutCache? old) := by
  cases old with
  | none => exact hp
  | some n => exact hp.withoutCache n

/-- A cache has a number below those of the caches to come. -/
theorem Paired.lt (hn : Paired service live w v n) : n < w.caches.length := by
  cases hn with
  | unresolved _ left => exact (List.getElem?_eq_some_iff.mp left).1
  | resolved _ _ _ _ _ left => exact (List.getElem?_eq_some_iff.mp left).1

/-- New caches are unresolved in both worlds. -/
theorem Parallel.withNewCache (hp : Parallel service live w v) :
    Parallel service live (w.withNewCache .sockets powerServiceName) (v.withNewCache .process powerServiceName) ∧
      Paired service live (w.withNewCache .sockets powerServiceName) (v.withNewCache .process powerServiceName)
        w.caches.length := by
  refine ⟨hp.withCaches (by simp [hp.length]), .unresolved 0 ?_ ?_⟩
  · rw [World.getElem?_caches_withNewCache, if_pos rfl]
    rfl
  · rw [World.getElem?_caches_withNewCache, if_pos hp.length]
    rfl

/-- A facade is connected in both worlds or in neither. -/
theorem Parallel.connect (hp : Parallel service live w v) (hf : f.registrar = .sockets) (hg : g.registrar = .process)
    (hcache : f.cache = g.cache) (hn : ∀ n, f.cache = some n → Paired service live w v n) :
    ∃ w' v' ok cache, (f.connect.run w).value = some (ok, ⟨.sockets, cache⟩) ∧ (f.connect.run w).state = w' ∧
      (g.connect.run v).value = some (ok, ⟨.process, cache⟩) ∧ (g.connect.run v).state = v' ∧
      Parallel service live w' v' ∧ (∀ n, cache = some n → Paired service live w' v' n) ∧
      w'.network.dir = w.network.dir := by
  obtain ⟨hadded, hnew⟩ := hp.withNewCache
  obtain ⟨w', v', left, right, hv, hs, hv', hs', hgot, hpaired, hsame, -, hdir⟩ := hadded.get hnew
  have hleft : (f.sought w).value = some left := by rwa [PowerFacade.sought, hf]
  have hright : (g.sought v).value = some right := by rwa [PowerFacade.sought, hg, ← hp.length]
  obtain ⟨hfv, hfs⟩ := PowerFacade.run_connect hleft
  obtain ⟨hgv, hgs⟩ := PowerFacade.run_connect hright
  have hwstate : (f.sought w).state = w' := by rwa [PowerFacade.sought, hf]
  have hvstate : (g.sought v).state = v' := by rwa [PowerFacade.sought, hg, ← hp.length]
  have hdirs : ∀ old, (w'.withoutCache? old).network.dir = w'.network.dir := by rintro (_ | _) <;> rfl
  rw [hwstate] at hfs
  rw [hvstate, ← hcache] at hgs
  rw [hf] at hfv
  rw [hg, ← hp.length] at hgv
  have hkept : Parallel service live (w'.withoutCache? f.cache) (v'.withoutCache? f.cache) := hgot.withoutCache? _
  cases hsame with
  | missed =>
    refine ⟨_, _, false, none, hfv, hfs, hgv, hgs.trans (by rw [hp.length]; rfl), hkept.withoutCache _, ?_,
      (hdirs f.cache).trans hdir⟩
    rintro _ ⟨⟩
  | found m generation h i b provider connected =>
    refine ⟨_, _, true, some w.caches.length, hfv, hfs, hgv, hgs, hkept, ?_, (hdirs f.cache).trans hdir⟩
    rintro _ ⟨⟩
    exact hpaired.withoutCache? fun m hm => (hn m hm).lt.ne

/-- A query has the same answer in both worlds. -/
theorem Parallel.ask {hal : PowerStats σ} (hp : Parallel (PowerStats.stub hal) live w v) (hcache : f.cache = g.cache)
    (hn : ∀ n, f.cache = some n → Paired (PowerStats.stub hal) live w v n) (q : PowerQuery) (ids : List Int32)
    (hfits : ∀ n handle, f.cache = some n → ((World.cacheGet n).run w).value = some (some handle) →
      PowerStats.FramesFit hal q ids w.backend) :
    ((f.ask q ids).run w).value = ((g.ask q ids).run v).value ∧
      ((f.ask q ids).run w).state.backend = ((g.ask q ids).run v).state.backend ∧
      (((f.ask q ids).run w).value ≠ none →
        Parallel (PowerStats.stub hal) live ((f.ask q ids).run w).state ((g.ask q ids).run v).state ∧
          (∀ n, f.cache = some n →
            Paired (PowerStats.stub hal) live ((f.ask q ids).run w).state ((g.ask q ids).run v).state n) ∧
          ((f.ask q ids).run w).state.network.dir = w.network.dir) := by
  cases hf : f.cache with
  | none =>
    rw [PowerFacade.run_ask_of_unconnected q ids hf, PowerFacade.run_ask_of_unconnected q ids (hcache ▸ hf)]
    exact ⟨rfl, hp.backend, fun _ => ⟨hp, nofun, rfl⟩⟩
  | some n =>
    have hg : g.cache = some n := hcache ▸ hf
    obtain ⟨w', v', left, right, hv, hs, hv', hs', hgot, hpaired, hsame, hbackend, hdir⟩ := hp.get (hn n hf)
    cases hsame with
    | missed =>
      obtain ⟨hleft, hleft'⟩ := PowerFacade.run_ask_of_none q ids hf hv
      obtain ⟨hright, hright'⟩ := PowerFacade.run_ask_of_none q ids hg hv'
      rw [hleft, hright, hleft', hright', hs, hs']
      refine ⟨rfl, hgot.backend, fun _ => ⟨hgot, ?_, hdir⟩⟩
      rintro _ ⟨⟩
      exact hpaired
    | found m generation h i b provider connected =>
      subst provider
      have hframes := hbackend ▸ hfits n _ hf hv
      obtain ⟨hvalue, hstate, hgoes⟩ := hgot.transact hpaired connected hframes.carried_request
        fun r hr => hframes.carried_reply hr
      obtain ⟨hleft, hleft'⟩ := PowerFacade.run_ask_of_handle q ids hf hv
      obtain ⟨hright, hright'⟩ := PowerFacade.run_ask_of_handle q ids hg hv'
      rw [hs] at hleft hleft'
      rw [hs'] at hright hright'
      rw [hleft, hright, hleft', hright']
      refine ⟨?_, hstate, fun hcame => ?_⟩
      · rw [hvalue, Option.map_map]
        exact congrFun (congrArg Option.map (funext fun r => q.answer_mapError r _)) _
      · obtain ⟨hpasses, hstays, hsite⟩ := hgoes fun hnone => hcame (by rw [hnone, Option.map_none])
        refine ⟨hpasses, ?_, hsite.trans hdir⟩
        rintro _ ⟨⟩
        exact hstays

end Worlds

end Switchboard
