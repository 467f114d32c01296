import Switchboard.Proofs.Socket.Steps
import Switchboard.World.Basic

/-!
# Death links of restarted hosts

The connection of an object's transactions is made when the object is looked up, that of a death link when the link is made,
and each with the host that listens at the path of the service at its own time. A link promises (`Site.LinkPromise`) that
the host which acknowledges it is the host of the object, and that it is refused if that host is gone.

`death_link_law` says of every site that any steps of anybody lead to when the promise is kept: when the object is known to be
dead, when nobody listens at its path, and when its own host does; not when another host took its path over. The watchers are
exact about what they watch: a recipient is told at their first look after the host that acknowledged its link was shut down,
and not before. A cache that takes the two steps one after the other is told of the death of the host it calls; one that is
interrupted may hold a handle to a dead host and a link to a live one (`restarted_host_is_linked`).
-/

namespace Switchboard

variable {σ ρ : Type}

/-! ## What the watchers see -/

namespace Network

variable {n : Network σ ρ}

/-- Whether the host that acknowledged a link was shut down. -/
def isOrphaned (n : Network σ ρ) (l : DeathLink ρ) : Bool :=
  (n.hostOf l.connection).any fun h => !n.isRunning h

/-- A watched link has come to its end when its host was shut down. -/
theorem Watches.hasEnded {l : DeathLink ρ} (hl : n.Watches l) : n.hasEnded l = (l.watched && n.isOrphaned l) := by
  obtain ⟨k, h, hk, hserver, harrived, hup, hdown⟩ := hl
  have hhost : n.hostOf l.connection = some h := hostOf_eq_some_iff.mpr ⟨k, hk, hserver⟩
  have hnext : Frame.next ([] : List UInt8) = .incomplete := rfl
  rw [Network.hasEnded, isOrphaned, hk, hhost, Option.any_some]
  simp only [harrived, hnext, Bool.or_false]
  cases hr : n.isRunning h with
  | true => rw [(hup hr).2]; rfl
  | false => rw [hdown hr]; rfl

end Network

namespace Site

variable {s : Site σ ρ}

/-- The watchers tell the recipients of the watched links whose hosts were shut down. -/
theorem value_watch (hn : s.network.Sound) :
    ((watch : Act (Site σ ρ) (List ρ)).run s).value =
      some (s.network.objects.flatMap fun o =>
        (o.links.filter fun l => l.watched && s.network.isOrphaned l).map (·.recipient)) := by
  have hlinks : ∀ o ∈ s.network.objects,
      o.links.filter s.network.hasEnded = o.links.filter fun l => l.watched && s.network.isOrphaned l := by
    intro o ho
    exact List.filter_congr fun l hl => (hn.fits.watches o ho l hl).hasEnded
  have htold : (s.network.objects.flatMap fun o => (o.links.filter s.network.hasEnded).map (·.recipient)) =
      s.network.objects.flatMap fun o =>
        (o.links.filter fun l => l.watched && s.network.isOrphaned l).map (·.recipient) := by
    rw [List.flatMap_def, List.flatMap_def, List.map_congr_left fun o ho => by rw [hlinks o ho]]
  rw [← htold]
  rfl

/-! ## What becomes of a link -/

/-- A link of an object, by its place. -/
def HasLink (s : Site σ ρ) (b i : Nat) (l : DeathLink ρ) : Prop :=
  ∃ o, s.network.objects[b]? = some o ∧ o.links[i]? = some l

/-- A link stays where the objects stay. -/
theorem HasLink.of_objects_eq {s s' : Site σ ρ} {b i : Nat} {l : DeathLink ρ} (hl : s.HasLink b i l)
    (h : s'.network.objects = s.network.objects) : s'.HasLink b i l := by
  rw [HasLink, h]
  exact hl

/-- A publication changes no object. -/
theorem objects_publish (name : String) (service : Service σ) :
    ((publish name service).run s).state.network.objects = s.network.objects :=
  keeps_publish (P := fun m => m.objects = s.network.objects) (fun _ _ _ hm => hm) (fun _ _ hm => hm) name service s rfl

/-- Neither does a shutdown. -/
theorem objects_shutdown (hn : s.network.Sound) (h : Nat) :
    ((shutdown h).run s).state.network.objects = s.network.objects := by
  rcases shutdown_cases hn h with hsame | ⟨g, -, haccept⟩ | ⟨files, hended⟩
  · rw [hsame]
  · rw [haccept]
    rfl
  · rw [hended]
    rfl

/-- Nor does anything that is put into the directory. -/
theorem objects_obstruct (n : Network σ ρ) (name : String) (e : FileEntry) : (n.obstruct name e).2.objects = n.objects := by
  simp only [Network.obstruct]
  split
  · split <;> rfl
  · rfl

variable {b i : Nat} {l : DeathLink ρ}

/-- A link that is watched stays as it is, until its object is dropped or the watchers find that its host was shut down. -/
theorem HasLink.act (hn : s.network.Sound) (hl : s.HasLink b i l) (a : SiteStep σ ρ) (hdrop : a ≠ .drop b)
    (hwatch : a = .watch → (l.watched && s.network.isOrphaned l) = false) : ((a.act.run s).state).HasLink b i l := by
  cases a with
  | publish name service => exact hl.of_objects_eq (by simpa [SiteStep.act] using objects_publish name service)
  | shutdown h => exact hl.of_objects_eq (objects_shutdown hn h)
  | transact b' code data =>
    exact hl.of_objects_eq (by simpa [SiteStep.act] using (usesObject_transact hn b' code data).objects_eq)
  | write b' bytes => exact hl.of_objects_eq (usesObject_write hn b' bytes).objects_eq
  | read b' => exact hl.of_objects_eq (usesObject_read hn b').objects_eq
  | obstruct name directory => exact hl.of_objects_eq (objects_obstruct _ name _)
  | remove name => exact hl
  | elsewhere f => exact hl
  | lookup name =>
    obtain ⟨o, ho, hi⟩ := hl
    refine ⟨o, ?_, hi⟩
    cases hlistener : s.network.listener? name with
    | none =>
      have hstate := (run_lookup_of_no_listener hn.unscripted hlistener).2
      simpa [SiteStep.act, hstate] using ho
    | some h =>
      have happend : (s.network.objects ++ [⟨name, s.network.connections.length, true, []⟩])[b]? = some o := by
        rw [List.getElem?_append_left (List.getElem?_eq_some_iff.mp ho).1, ho]
      simpa [SiteStep.act, run_lookup_of_listener hlistener] using happend
  | link b' r =>
    obtain ⟨o, ho, hi⟩ := hl
    cases ho' : s.network.objects[b']? with
    | none =>
      exact ⟨o, by simpa [SiteStep.act, run_link_of_no_object r ho'] using ho, hi⟩
    | some o' =>
      by_cases halive : o'.alive = true
      · cases hlistener : s.network.listener? o'.name with
        | none => exact ⟨o, by simpa [SiteStep.act, run_link_of_no_listener r ho' hn.unscripted hlistener] using ho, hi⟩
        | some h =>
          have hstate : (((SiteStep.link b' r).act : Act (Site σ ρ) Unit).run s).state.network.objects =
              s.network.objects.modify b' fun o => { o with links := o.links ++ [⟨s.network.connections.length, r, true⟩] } := by
            simp [SiteStep.act, run_link_of_listener r ho' halive hlistener, Network.updateObject, Network.accept,
              Network.addConnection, Network.closeAll]
          rw [HasLink, hstate, List.getElem?_modify, ho]
          by_cases hb : b' = b
          · refine ⟨{ o with links := o.links ++ [⟨s.network.connections.length, r, true⟩] }, by simp [hb], ?_⟩
            exact (List.getElem?_append_left (List.getElem?_eq_some_iff.mp hi).1).trans hi
          · exact ⟨o, by simp [hb], hi⟩
      · have hdead := run_link_of_dead r ho' (Bool.eq_false_iff.mpr halive)
        exact ⟨o, by simpa [SiteStep.act, hdead] using ho, hi⟩
  | watch =>
    obtain ⟨o, ho, hi⟩ := hl
    have hended : s.network.hasEnded l = false := by
      rw [(hn.fits.watches o (List.mem_of_getElem? ho) l (List.mem_of_getElem? hi)).hasEnded]
      exact hwatch rfl
    refine ⟨s.network.notice o, ?_, ?_⟩
    · change (s.network.objects.map s.network.notice)[b]? = _
      rw [List.getElem?_map, ho, Option.map_some]
    · simp [Network.notice, hi, hended]
  | drop b' =>
    obtain ⟨o, ho, hi⟩ := hl
    have hb : b' ≠ b := fun h => hdrop (h ▸ rfl)
    refine ⟨o, ?_, hi⟩
    change (s.network.objects.modify b' _)[b]? = _
    rw [List.getElem?_modify, ho]
    simp [hb]

/-- A link that is watched stays as it is, whatever the steps, up to a look of the watchers at which its host is gone. -/
theorem HasLink.after (hn : s.network.Sound) (hl : s.HasLink b i l) (hwatched : l.watched = true)
    (steps : List (SiteStep σ ρ)) (hdrop : SiteStep.drop b ∉ steps) :
    (s.after steps).HasLink b i l ∨ ∃ early late, steps = early ++ .watch :: late ∧
      (s.after early).HasLink b i l ∧ (s.after early).network.isOrphaned l = true := by
  induction steps generalizing s with
  | nil => exact .inl hl
  | cons a steps ih =>
    by_cases htold : a = .watch ∧ s.network.isOrphaned l = true
    · obtain ⟨rfl, horphaned⟩ := htold
      exact .inr ⟨[], steps, rfl, hl, horphaned⟩
    · have hstays : ((a.act.run s).state).HasLink b i l := by
        refine hl.act hn a (fun h => hdrop (h ▸ List.mem_cons_self)) fun h => ?_
        rw [hwatched, Bool.true_and]
        exact Bool.eq_false_iff.mpr fun horphaned => htold ⟨h, horphaned⟩
      have hnext := hn.moves (moves_act hn a)
      rcases ih hnext hstays (fun h => hdrop (List.mem_cons_of_mem a h)) with hlast | ⟨early, late, rfl, hseen⟩
      · exact .inl hlast
      · exact .inr ⟨a :: early, late, rfl, hseen⟩

/-! ## The promise -/

/-- What a link promises its caller about the host of the object. -/
structure LinkPromise (s : Site σ ρ) (b : Nat) (r : ρ) (h : Nat) : Prop where
  /-- If the link is accepted, the host at the other end of its connection is that one. -/
  same : ((link b r).run s).value = some (.ok ()) →
    ((link b r).run s).state.network.hostOf s.network.connections.length = some h
  /-- If that host was shut down, the link is refused. -/
  gone : s.network.isRunning h = false → ((link b r).run s).value = some (.error .deadObject)

variable {o : SocketObject ρ} {h g : Nat} (r : ρ)

/-- A link is refused if the object is known to be dead or nobody listens at its path. -/
theorem run_link_of_refused (hn : s.network.Sound) (ho : s.network.objects[b]? = some o)
    (hrefused : o.alive = false ∨ s.network.listener? o.name = none) :
    (link b r).run s = ⟨some (.error .deadObject), s, []⟩ := by
  rcases hrefused with halive | hlistener
  · exact run_link_of_dead r ho halive
  · exact run_link_of_no_listener r ho hn.unscripted hlistener

/-- The connection of a new link is one of the host that listens. -/
theorem hostOf_link (ho : s.network.objects[b]? = some o) (halive : o.alive = true)
    (hlistener : s.network.listener? o.name = some g) :
    ((link b r).run s).state.network.hostOf s.network.connections.length = some g := by
  rw [run_link_of_listener r ho halive hlistener]
  exact Network.hostOf_eq_some_iff.mpr ⟨.fresh (.host g), Network.getElem?_accept_new, rfl⟩

/-- The new link is the object's last one. -/
theorem hasLink_link (ho : s.network.objects[b]? = some o) (halive : o.alive = true)
    (hlistener : s.network.listener? o.name = some g) :
    ((link b r).run s).state.HasLink b o.links.length ⟨s.network.connections.length, r, true⟩ := by
  rw [run_link_of_listener r ho halive hlistener]
  refine ⟨{ o with links := o.links ++ [⟨s.network.connections.length, r, true⟩] }, ?_, by simp⟩
  change (s.network.objects.modify b _)[b]? = _
  rw [List.getElem?_modify, ho]
  simp

/-- The promise is kept unless another host listens at the path of an object that is not known to be dead. -/
theorem linkPromise_iff (hn : s.network.Sound) (ho : s.network.objects[b]? = some o) :
    s.LinkPromise b r h ↔
      o.alive = false ∨ s.network.listener? o.name = none ∨ s.network.listener? o.name = some h := by
  by_cases hrefused : o.alive = false ∨ s.network.listener? o.name = none
  · have hrun := run_link_of_refused r hn ho hrefused
    have hkept : s.LinkPromise b r h := by
      refine ⟨fun hok => ?_, fun _ => by rw [hrun]⟩
      rw [hrun] at hok
      cases hok
    exact iff_of_true hkept (hrefused.imp_right .inl)
  · obtain ⟨halive, hsome⟩ := not_or.mp hrefused
    rw [Bool.not_eq_false] at halive
    obtain ⟨g, hlistener⟩ := Option.ne_none_iff_exists'.mp hsome
    have hok : ((link b r).run s).value = some (.ok ()) := by rw [run_link_of_listener r ho halive hlistener]
    have hhost := hostOf_link r ho halive hlistener
    constructor
    · intro hkept
      have hsame : g = h := Option.some.inj (hhost.symm.trans (hkept.same hok))
      exact .inr (.inr (hsame ▸ hlistener))
    · rintro (hdead | hnone | hsame)
      · exact absurd hdead (by simp [halive])
      · exact absurd hnone hsome
      · obtain rfl : g = h := Option.some.inj (hlistener.symm.trans hsame)
        refine ⟨fun _ => hhost, fun hdown => ?_⟩
        rw [Network.isRunning_of_listener hlistener] at hdown
        cases hdown

/-- A lookup adds an object of the host that listens. -/
theorem lookup_found (hn : s.network.Sound) {name : String} (hlistener : s.network.listener? name = some h) :
    ((lookup name).run s).value = some (some s.network.objects.length) ∧ ((lookup name).run s).state.network.Sound ∧
      ((lookup name).run s).state.network.objects[s.network.objects.length]? =
        some ⟨name, s.network.connections.length, true, []⟩ ∧
      ((lookup name).run s).state.network.hostOf s.network.connections.length = some h := by
  have hsound := hn.moves (moves_lookup hn name)
  have hrun := run_lookup_of_listener hlistener
  refine ⟨by rw [hrun], hsound, ?_, ?_⟩
  · rw [hrun]
    exact List.getElem?_concat_length
  · rw [hrun]
    exact Network.hostOf_eq_some_iff.mpr ⟨.fresh (.host h), Network.getElem?_accept_new, rfl⟩

end Site

/-! ## Caches between the lookup and the link -/

/-- A resolver that is interrupted by others between its lookup and its link. -/
def Resolver.amid {β η : Type} (between : Act σ Unit) (r : Resolver σ β η) : Resolver σ β η :=
  { r with
    link := fun object generation => do
      between
      r.link object generation }

namespace World

variable {w : World σ}

/-- The services and the sockets of a world. -/
def site (w : World σ) : Site σ Recipient :=
  ⟨w.backend, w.network⟩

/-- Others take steps at the sockets. -/
def others (steps : List (SiteStep σ Recipient)) : Act (World σ) Unit :=
  onSite (Act.modify (·.after steps))

/-- The world with other services and sockets. -/
def withSite (s : Site σ Recipient) (w : World σ) : World σ :=
  { w with backend := s.backend, network := s.network }

@[simp] theorem network_site : w.site.network = w.network := rfl

@[simp] theorem site_withSite (s : Site σ Recipient) : (w.withSite s).site = s := rfl

@[simp] theorem network_withSite (s : Site σ Recipient) : (w.withSite s).network = s.network := rfl

theorem run_onSite {α : Type} (x : Act (Site σ Recipient) α) :
    (onSite x).run w = ⟨(x.run w.site).value, w.withSite (x.run w.site).state, (x.run w.site).log⟩ := rfl

/-- A `get` of a cache that is interrupted by others between its lookup and its link. -/
def interruptedGet (n : Nat) (cell : CacheCell) (between : List (SiteStep σ Recipient)) :
    Act (World σ) (Option Handle × Cache Handle) :=
  cell.cache.get cell.name ((resolver n cell).amid (others between))

/-- A `get` that is interrupted by nothing is a `get`. -/
theorem interruptedGet_nil (n : Nat) (cell : CacheCell) :
    (interruptedGet n cell [] : Act (World σ) (Option Handle × Cache Handle)) =
      cell.cache.get cell.name (resolver n cell) := by
  have hlink : ((resolver n cell : Resolver (World σ) ObjectRef Handle).amid (others [])).link =
      (resolver n cell : Resolver (World σ) ObjectRef Handle).link := by
    funext object generation
    exact Act.ext fun w => rfl
  have hresolver : (resolver n cell : Resolver (World σ) ObjectRef Handle).amid (others []) = resolver n cell :=
    congrArg (fun link => ({ resolver n cell with link } : Resolver (World σ) ObjectRef Handle)) hlink
  rw [interruptedGet, hresolver]

/-- The cache holds a handle to an object whose transactions one host serves, and whose link another one acknowledged. -/
def Memoized (w : World σ) (n : Nat) (c : Cache Handle) (h g : Nat) : Prop :=
  ∃ b i o l, c.cached = some ⟨⟨n, c.generation, .socket b⟩, c.generation⟩ ∧ w.network.objects[b]? = some o ∧
    w.network.hostOf o.connection = some h ∧ w.site.HasLink b i l ∧ l.recipient = .cache n c.generation ∧
    l.watched = true ∧ w.network.hostOf l.connection = some g

section Interrupted

variable {n : Nat} {cell : CacheCell} {between : List (SiteStep σ Recipient)}

/-- What a cache looks up while others do their steps is looked up at the site. -/
theorem run_lookup_amid (hsockets : cell.registrar = .sockets) :
    ((resolver n cell).amid (others between)).lookup.run w =
      ⟨((Site.lookup cell.name).run w.site).value.map fun b => b.map .socket,
        w.withSite ((Site.lookup cell.name).run w.site).state, ((Site.lookup cell.name).run w.site).log⟩ := by
  simp only [Resolver.amid, resolver, lookup, hsockets, Act.run_bind, run_onSite]
  cases ((Site.lookup cell.name).run w.site).value with
  | none => rfl
  | some b => simp

variable (n cell between) in
/-- What it links is linked behind their steps. -/
theorem run_link_amid (b generation : Nat) :
    (((resolver n cell).amid (others between)).link (.socket b) generation).run w =
      ⟨((Site.link b (.cache n generation)).run (w.site.after between)).value,
        w.withSite ((Site.link b (.cache n generation)).run (w.site.after between)).state,
        ((Site.link b (.cache n generation)).run (w.site.after between)).log⟩ := rfl

/-- A lookup that finds nothing ends the `get`. -/
theorem value_interruptedGet_of_missed (hn : w.network.Sound) (hsockets : cell.registrar = .sockets)
    (hunresolved : cell.cache.cached = none) (hlistener : w.network.listener? cell.name = none) :
    ((interruptedGet n cell between).run w).value = some (none, cell.cache) := by
  obtain ⟨hvalue, -⟩ := Site.run_lookup_of_no_listener (s := w.site) hn.unscripted hlistener
  refine (Cache.run_get_of_missed cell.name hunresolved ?_).1
  rw [run_lookup_amid hsockets, hvalue]
  rfl

section Found

variable {h : Nat} {t : Site σ Recipient} {o : SocketObject Recipient} (hn : w.network.Sound)
  (hsockets : cell.registrar = .sockets) (hunresolved : cell.cache.cached = none)
  (hlistener : w.network.listener? cell.name = some h) (ht : t = ((Site.lookup cell.name).run w.site).state)
  (ho : (t.after between).network.objects[w.network.objects.length]? = some o)

variable (n between) in
include hn hsockets hlistener ht in
/-- If a host listens, a new object is found. -/
theorem run_lookup_amid_of_found :
    (((resolver n cell).amid (others between)).lookup.run w).value = some (some (.socket w.network.objects.length)) ∧
      (((resolver n cell).amid (others between)).lookup.run w).state = w.withSite t := by
  obtain ⟨hvalue, -⟩ := Site.lookup_found (s := w.site) hn hlistener
  rw [run_lookup_amid hsockets, hvalue, ht]
  exact ⟨rfl, rfl⟩

include hn hsockets hunresolved hlistener ht ho in
/-- A link that is refused after the others took their steps leaves the cache unresolved. -/
theorem value_interruptedGet_of_refused (hsound : (t.after between).network.Sound)
    (hrefused : o.alive = false ∨ (t.after between).network.listener? o.name = none) :
    ((interruptedGet n cell between).run w).value = some (none, ⟨none, cell.cache.generation + 1⟩) := by
  obtain ⟨hfound, hstate⟩ := run_lookup_amid_of_found n between hn hsockets hlistener ht
  have hlink := run_link_amid (w := w.withSite t) n cell between w.network.objects.length (cell.cache.generation + 1)
  rw [site_withSite] at hlink
  have hrefusal := Site.run_link_of_refused (.cache n (cell.cache.generation + 1)) hsound ho hrefused
  refine (Cache.run_get_of_refused cell.name (e := .deadObject) hunresolved hfound ?_).1
  rw [hstate, hlink, hrefusal]

include hn hsockets hunresolved hlistener ht ho in
/-- A link that is accepted then resolves the cache. -/
theorem run_interruptedGet_of_accepted {g : Nat} (halive : o.alive = true)
    (hg : (t.after between).network.listener? o.name = some g) :
    ((interruptedGet n cell between).run w).value =
        some (some ⟨n, cell.cache.generation + 1, .socket w.network.objects.length⟩,
          ⟨some ⟨⟨n, cell.cache.generation + 1, .socket w.network.objects.length⟩, cell.cache.generation + 1⟩,
            cell.cache.generation + 1⟩) ∧
      ((interruptedGet n cell between).run w).state = w.withSite
        ((Site.link w.network.objects.length (.cache n (cell.cache.generation + 1))).run (t.after between)).state := by
  obtain ⟨hfound, hstate⟩ := run_lookup_amid_of_found n between hn hsockets hlistener ht
  have hlink := run_link_amid (w := w.withSite t) n cell between w.network.objects.length (cell.cache.generation + 1)
  rw [site_withSite] at hlink
  have haccepted := Site.run_link_of_listener (.cache n (cell.cache.generation + 1)) ho halive hg
  obtain ⟨hvalue, hfinal⟩ := Cache.run_get_of_linked cell.name hunresolved hfound
    (by rw [hstate, hlink, haccepted])
  refine ⟨hvalue, ?_⟩
  rw [interruptedGet, hfinal, hstate, hlink]
  rfl

include hn hlistener ht ho in
/-- Then the host that listened at the lookup serves the transactions, and the one that listened at the link acknowledged it. -/
theorem memoized_of_accepted {g : Nat} (halive : o.alive = true)
    (hg : (t.after between).network.listener? o.name = some g) (generation : Nat) :
    (w.withSite ((Site.link w.network.objects.length (.cache n generation)).run (t.after between)).state).Memoized n
      ⟨some ⟨⟨n, generation, .socket w.network.objects.length⟩, generation⟩, generation⟩ h g := by
  obtain ⟨-, hsound, hobject, hhost⟩ := Site.lookup_found (s := w.site) hn hlistener
  rw [← ht] at hsound hobject hhost
  -- the object stays with its connection, and the connection with its host
  have hmoves := Site.moves_after hsound between
  have hlinked := Site.moves_link (hsound.moves hmoves) w.network.objects.length (.cache n generation)
  obtain ⟨o', ho', -, hconnection⟩ := (hmoves.trans hlinked).object hobject
  have hnew := Site.hasLink_link (.cache n generation) ho halive hg
  have hnewhost := Site.hostOf_link (b := w.network.objects.length) (.cache n generation) ho halive hg
  rw [Memoized, site_withSite, network_withSite]
  refine ⟨w.network.objects.length, o.links.length, o',
    ⟨(t.after between).network.connections.length, .cache n generation, true⟩, rfl, ho', ?_, hnew, rfl, rfl, hnewhost⟩
  rw [hconnection]
  exact (hmoves.trans hlinked).hostOf hhost

end Found

/-- What a `get` comes to that resolves its cache while it is interrupted between the lookup and the link. -/
theorem memoized_of_interruptedGet (hn : w.network.Sound) (hsockets : cell.registrar = .sockets)
    (hunresolved : cell.cache.cached = none) {handle : Handle} {cache : Cache Handle}
    (hget : ((interruptedGet n cell between).run w).value = some (some handle, cache)) :
    cache.cached = some ⟨handle, cache.generation⟩ ∧ ∃ h g, w.network.listener? cell.name = some h ∧
      (((Site.lookup cell.name).run w.site).state.after between).network.listener? cell.name = some g ∧
      ((interruptedGet n cell between).run w).state.Memoized n cache h g ∧
      ((interruptedGet n cell between).run w).state.network.isRunning g = true := by
  cases hlistener : w.network.listener? cell.name with
  | none =>
    rw [value_interruptedGet_of_missed hn hsockets hunresolved hlistener] at hget
    cases hget
  | some h =>
    obtain ⟨t, ht⟩ : ∃ t, t = ((Site.lookup cell.name).run w.site).state := ⟨_, rfl⟩
    obtain ⟨-, hsound, hobject, -⟩ := Site.lookup_found (s := w.site) hn hlistener
    rw [← ht] at hsound
    rw [← ht, network_site] at hobject
    have hmoves := Site.moves_after hsound between
    obtain ⟨o, ho, hname, -⟩ := hmoves.object hobject
    by_cases hrefused : o.alive = false ∨ (t.after between).network.listener? o.name = none
    · rw [value_interruptedGet_of_refused hn hsockets hunresolved hlistener ht ho (hsound.moves hmoves) hrefused] at hget
      cases hget
    · obtain ⟨halive, hsome⟩ := not_or.mp hrefused
      rw [Bool.not_eq_false] at halive
      obtain ⟨g, hg⟩ := Option.ne_none_iff_exists'.mp hsome
      obtain ⟨hvalue, hfinal⟩ :=
        run_interruptedGet_of_accepted (n := n) hn hsockets hunresolved hlistener ht ho halive hg
      rw [hvalue] at hget
      obtain ⟨hhandle, rfl⟩ := Prod.mk.inj (Option.some.inj hget)
      obtain rfl := Option.some.inj hhandle
      refine ⟨rfl, h, g, rfl, ?_, ?_, ?_⟩
      · rw [← ht, ← hg, hname]
      · rw [hfinal]
        exact memoized_of_accepted hn hlistener ht ho halive hg _
      · rw [hfinal, network_withSite, Site.run_link_of_listener _ ho halive hg]
        exact Network.isRunning_of_listener hg

end Interrupted

end World

/-! ## The law -/

/-- A lookup changes nothing about who listens. -/
theorem Site.listener_lookup {s : Site σ ρ} {h : Nat} {name : String} (hlistener : s.network.listener? name = some h) :
    ((Site.lookup name).run s).state.network.listener? name = some h := by
  rw [Site.run_lookup_of_listener hlistener]
  exact hlistener

/-- Every object is one of a host. -/
theorem Network.Sound.hostOf_object {n : Network σ ρ} (hn : n.Sound) {b : Nat} {o : SocketObject ρ}
    (ho : n.objects[b]? = some o) : ∃ h, n.hostOf o.connection = some h := by
  have hlt := hn.fits.connected o (List.mem_of_getElem? ho)
  have hk : n.connections[o.connection]? = some n.connections[o.connection] := List.getElem?_eq_getElem hlt
  obtain ⟨h, hserver⟩ := hn.host_of_connection hk
  exact ⟨h, Network.hostOf_eq_some_iff.mpr ⟨_, hk, hserver⟩⟩

/-- What comes of death links at one site. -/
structure DeathLinkLaw (s : Site σ Recipient) : Prop where
  /-- A link is refused if its object is known to be dead or nobody listens at the path, and changes nothing then. -/
  refused : ∀ (b : Nat) (o : SocketObject Recipient) (r : Recipient), s.network.objects[b]? = some o →
    o.alive = false ∨ s.network.listener? o.name = none → (Site.link b r).run s = ⟨some (.error .deadObject), s, []⟩
  /-- Otherwise the host that listens acknowledges it. -/
  accepted : ∀ (b : Nat) (o : SocketObject Recipient) (r : Recipient) (g : Nat), s.network.objects[b]? = some o →
    o.alive = true → s.network.listener? o.name = some g → ((Site.link b r).run s).value = some (.ok ()) ∧
      ((Site.link b r).run s).state.HasLink b o.links.length ⟨s.network.connections.length, r, true⟩ ∧
      ((Site.link b r).run s).state.network.hostOf s.network.connections.length = some g
  /-- Every object has its host, and the promise about it is kept unless another host listens at the path of an object that is
  not known to be dead. -/
  promised : ∀ (b : Nat) (o : SocketObject Recipient) (r : Recipient), s.network.objects[b]? = some o →
    ∃ h, s.network.hostOf o.connection = some h ∧ (s.LinkPromise b r h ↔
      o.alive = false ∨ s.network.listener? o.name = none ∨ s.network.listener? o.name = some h)
  /-- The watchers tell the recipients of the watched links whose hosts were shut down. -/
  told : (Site.watch.run s).value = some (s.network.objects.flatMap fun o =>
    (o.links.filter fun l => l.watched && s.network.isOrphaned l).map (·.recipient))
  /-- Whatever the steps, a link is watched up to their first look after its host was shut down. -/
  lasts : ∀ (b i : Nat) (l : DeathLink Recipient) (steps : List (SiteStep σ Recipient)), s.HasLink b i l →
    l.watched = true → SiteStep.drop b ∉ steps → (s.after steps).HasLink b i l ∨
      ∃ early late, steps = early ++ .watch :: late ∧ (s.after early).HasLink b i l ∧
        (s.after early).network.isOrphaned l = true
  /-- A cache that is interrupted has the host of its lookup and is told of the death of the host of its link. -/
  memoized : ∀ (w : World σ) (n : Nat) (cell : CacheCell) (between : List (SiteStep σ Recipient)) (handle : Handle)
    (cache : Cache Handle), w.site = s → cell.registrar = .sockets → cell.cache.cached = none →
    ((World.interruptedGet n cell between).run w).value = some (some handle, cache) →
    cache.cached = some ⟨handle, cache.generation⟩ ∧ ∃ h g, s.network.listener? cell.name = some h ∧
      (((Site.lookup cell.name).run s).state.after between).network.listener? cell.name = some g ∧
      ((World.interruptedGet n cell between).run w).state.Memoized n cache h g ∧
      ((World.interruptedGet n cell between).run w).state.network.isRunning g = true
  /-- The two are the same one if nobody interrupts it. -/
  uninterrupted : ∀ (w : World σ) (n : Nat) (cell : CacheCell) (handle : Handle) (cache : Cache Handle), w.site = s →
    cell.registrar = .sockets → cell.cache.cached = none →
    ((cell.cache.get cell.name (World.resolver n cell)).run w).value = some (some handle, cache) →
    ∃ h, ((cell.cache.get cell.name (World.resolver n cell)).run w).state.Memoized n cache h h ∧
      ((cell.cache.get cell.name (World.resolver n cell)).run w).state.network.isRunning h = true

/-- The law of death links, after any steps of anybody. -/
theorem death_link_law (backend : σ) (dir : String) (steps : List (SiteStep σ Recipient)) :
    DeathLinkLaw ((Site.new backend dir).after steps) := by
  have hn := Site.sound_after (ρ := Recipient) backend dir steps
  constructor
  case refused => exact fun b o r ho => Site.run_link_of_refused r hn ho
  case accepted =>
    intro b o r g ho halive hg
    refine ⟨?_, Site.hasLink_link r ho halive hg, Site.hostOf_link r ho halive hg⟩
    rw [Site.run_link_of_listener r ho halive hg]
  case promised =>
    intro b o r ho
    obtain ⟨h, hhost⟩ := hn.hostOf_object ho
    exact ⟨h, hhost, Site.linkPromise_iff r hn ho⟩
  case told => exact Site.value_watch hn
  case lasts => exact fun b i l later hl hwatched hdrop => hl.after hn hwatched later hdrop
  case memoized =>
    rintro w n cell between handle cache hsite hsockets hunresolved hget
    rw [← hsite] at hn ⊢
    exact World.memoized_of_interruptedGet hn hsockets hunresolved hget
  case uninterrupted =>
    rintro w n cell handle cache hsite hsockets hunresolved hget
    rw [← hsite] at hn
    rw [← World.interruptedGet_nil] at hget ⊢
    obtain ⟨-, h, g, hh, hg, hmemoized, hrunning⟩ := World.memoized_of_interruptedGet hn hsockets hunresolved hget
    -- nobody came between: who listened at the lookup still listens at the link
    obtain rfl : h = g := Option.some.inj ((Site.listener_lookup (s := w.site) hh).symm.trans hg)
    exact ⟨h, hmemoized, hrunning⟩

/-! ### A host that is restarted between the lookup and the link -/

namespace Restart

open OneService

/-- The host gives way to another one of the same name. -/
def restart : List (SiteStep Unit Recipient) :=
  [.shutdown 0, .publish "a" Service.echo]

/-- The site after the restart. -/
def restarted : Site Unit Recipient :=
  found.after restart

/-- A client with a cache that is not resolved yet. -/
def world : World Unit :=
  (World.new () "d").withSite published

def cell : CacheCell :=
  ⟨.sockets, "a", .empty, false⟩

/-- The site after the restart, in one piece. -/
theorem restarted_eq : restarted =
    ⟨(), "d", true, [("a", .socket (.host 1))], [⟨"a", Service.echo, false⟩, ⟨"a", Service.echo, true⟩], [],
      [(Connection.fresh (.host 0)).close], [⟨"a", 0, true, []⟩]⟩ := by
  rw [restarted, found_eq]
  cbv

/-- The second host listens there. -/
theorem listener_restarted : restarted.network.listener? "a" = some 1 := by
  rw [restarted_eq]
  cbv

/-- The object is the one from before. -/
theorem object_restarted : restarted.network.objects[0]? = some ⟨"a", 0, true, []⟩ := by
  rw [restarted_eq]
  rfl

/-- It belongs to the first host. -/
theorem hostOf_restarted : restarted.network.hostOf 0 = some 0 := by
  rw [restarted_eq]
  rfl

/-- That one does not run any more. -/
theorem isRunning_restarted : restarted.network.isRunning 0 = false := by
  rw [restarted_eq]
  rfl

theorem length_objects_world : world.network.objects.length = 0 := by
  rw [world, World.network_withSite, published_eq]
  rfl

theorem listener_world : world.network.listener? cell.name = some 0 := by
  rw [world, World.network_withSite]
  exact listener_published

/-- The `get` that is interrupted by the restart. -/
theorem run_interruptedGet :
    ((World.interruptedGet 0 cell restart).run world).value =
        some (some ⟨0, 1, .socket 0⟩, ⟨some ⟨⟨0, 1, .socket 0⟩, 1⟩, 1⟩) ∧
      ((World.interruptedGet 0 cell restart).run world).state =
        world.withSite ((Site.link 0 (.cache 0 1)).run restarted).state ∧
      (world.withSite ((Site.link 0 (.cache 0 1)).run restarted).state).Memoized 0 ⟨some ⟨⟨0, 1, .socket 0⟩, 1⟩, 1⟩ 0 1 := by
  have hn : world.network.Sound := Site.sound_after () "d" [.publish "a" Service.echo]
  have hobject : (found.after restart).network.objects[world.network.objects.length]? = some ⟨"a", 0, true, []⟩ := by
    rw [length_objects_world]
    exact object_restarted
  have hlookup : found = ((Site.lookup cell.name).run world.site).state := found_eq_lookup
  obtain ⟨hvalue, hstate⟩ :=
    World.run_interruptedGet_of_accepted (n := 0) hn rfl rfl listener_world hlookup hobject rfl listener_restarted
  have hmemoized := World.memoized_of_accepted (n := 0) hn listener_world hlookup hobject rfl listener_restarted 1
  rw [length_objects_world] at hvalue hstate hmemoized
  exact ⟨hvalue, hstate, hmemoized⟩

end Restart

open Restart

/-- A link is accepted by the second host though the host of the object was shut down, so the promise is broken; and a cache that
is interrupted by the restart holds a handle to the first host and is told of the death of the second one. -/
theorem restarted_host_is_linked :
    restarted.network.hostOf 0 = some 0 ∧ restarted.network.isRunning 0 = false ∧
      ((Site.link 0 (.tally 0)).run restarted).value = some (.ok ()) ∧
      ((Site.link 0 (.tally 0)).run restarted).state.network.hostOf restarted.network.connections.length = some 1 ∧
      ¬restarted.LinkPromise 0 (.tally 0) 0 ∧
      ∃ handle cache, ((World.interruptedGet 0 cell restart).run world).value = some (some handle, cache) ∧
        ((World.interruptedGet 0 cell restart).run world).state.Memoized 0 cache 0 1 ∧
        ((World.interruptedGet 0 cell restart).run world).state.network.isRunning 0 = false ∧
        ((World.interruptedGet 0 cell restart).run world).state.network.isRunning 1 = true := by
  have hrun := Site.run_link_of_listener (.tally 0) object_restarted rfl listener_restarted
  have hok : ((Site.link 0 (.tally 0)).run restarted).value = some (.ok ()) := by rw [hrun]
  have hhost := Site.hostOf_link (.tally 0) object_restarted rfl listener_restarted
  refine ⟨hostOf_restarted, isRunning_restarted, hok, hhost, fun hkept => ?_, ?_⟩
  · have hrefused := hkept.gone isRunning_restarted
    rw [hok] at hrefused
    cases hrefused
  · obtain ⟨hvalue, hstate, hmemoized⟩ := run_interruptedGet
    refine ⟨_, _, hvalue, ?_⟩
    rw [hstate]
    refine ⟨hmemoized, ?_, ?_⟩
    all_goals
      rw [World.network_withSite, Site.run_link_of_listener (.cache 0 1) object_restarted rfl listener_restarted,
        restarted_eq]
      rfl

end Switchboard
