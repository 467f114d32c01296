import Switchboard.Proofs.Capture.Shell
import Switchboard.Proofs.Power.Remote

/-!
# Items by their ids

A filtered query asks a device for the items of some ids, and the whole way there and back keeps what the device makes of it.
No ids are all items. Otherwise the answer has an item for each id, in the order of the ids, the first stored one of that id; and
if one id is that of no item there is no answer at all: the facade returns nothing, and logs an error that names the first such
id. Whatever comes of it, the device has kept the request as it was made.

`selection_law` says so of every facade that is initialized, through the registry of its process and through sockets, and that a
facade is initialized by connecting it.
-/

namespace Switchboard

/-! ## What a device selects -/

section Selection

variable {α : Type}

/-- The first stored item of an id. -/
def IsFirst (stored : List α) (id : α → Int32) (want : Int32) (item : α) : Prop :=
  ∃ front rest, stored = front ++ item :: rest ∧ id item = want ∧ ∀ other ∈ front, id other ≠ want

/-- The first of the ids that is that of no stored item. -/
def FirstAbsent (stored : List α) (id : α → Int32) (ids : List Int32) (want : Int32) : Prop :=
  ∃ front rest, ids = front ++ want :: rest ∧ (∀ other ∈ front, ∃ item ∈ stored, id item = other) ∧
    ∀ item ∈ stored, id item ≠ want

/-- What is said of an id that is that of no item. -/
def absentError (what : String) (want : Int32) : ServiceError :=
  .failedTransaction ("invalid " ++ what ++ " id " ++ toString want.toInt)

variable {stored : List α} {id : α → Int32} {ids : List Int32} {want : Int32}

/-- An id that is missing has a first one before it, or is the first one. -/
theorem exists_firstAbsent (h : ∃ want ∈ ids, ∀ item ∈ stored, id item ≠ want) :
    ∃ first, FirstAbsent stored id ids first := by
  induction ids with
  | nil =>
    obtain ⟨want, hwant, -⟩ := h
    cases hwant
  | cons want ids ih =>
    by_cases hfirst : ∃ item ∈ stored, id item = want
    · obtain ⟨other, hother, habsent⟩ := h
      have hlater : other ∈ ids := (List.mem_cons.mp hother).resolve_left fun heq => by
        obtain ⟨item, hitem, hid⟩ := hfirst
        exact habsent item hitem (hid.trans heq.symm)
      obtain ⟨first, front, rest, rfl, hfront, hnone⟩ := ih ⟨other, hlater, habsent⟩
      exact ⟨first, want :: front, rest, rfl, List.forall_mem_cons.mpr ⟨hfirst, hfront⟩, hnone⟩
    · exact ⟨want, [], ids, rfl, List.forall_mem_nil _, fun item hitem hid => hfirst ⟨item, hitem, hid⟩⟩

namespace Device

/-- The item of one id. -/
def pick (what : String) (id : α → Int32) (stored : List α) (want : Int32) : Except ServiceError α :=
  match stored.find? (id · == want) with
  | some item => .ok item
  | none => .error (absentError what want)

/-- With ids the items are picked one by one. -/
theorem select_eq (what : String) (h : ids ≠ []) : select what id stored ids = ids.mapM (pick what id stored) := by
  rw [select, if_neg (by simpa using h)]
  rfl

/-- A stored id is picked with its first item. -/
theorem exists_pick (what : String) (h : ∃ item ∈ stored, id item = want) :
    ∃ item, pick what id stored want = .ok item ∧ IsFirst stored id want item := by
  obtain ⟨item, hitem, hid⟩ := h
  have hfound : (stored.find? (id · == want)).isSome := List.find?_isSome.mpr ⟨item, hitem, beq_iff_eq.mpr hid⟩
  obtain ⟨first, hfirst⟩ := Option.isSome_iff_exists.mp hfound
  obtain ⟨hmatch, front, rest, hstored, hbefore⟩ := List.find?_eq_some_iff_append.mp hfirst
  refine ⟨first, by rw [pick, hfirst], front, rest, hstored, beq_iff_eq.mp hmatch, fun other hother heq => ?_⟩
  have hno := hbefore other hother
  rw [beq_iff_eq.mpr heq] at hno
  cases hno

/-- One that is not stored is an error. -/
theorem pick_absent (what : String) (h : ∀ item ∈ stored, id item ≠ want) :
    pick what id stored want = .error (absentError what want) := by
  have hnone : stored.find? (id · == want) = none :=
    List.find?_eq_none.mpr fun item hitem heq => h item hitem (beq_iff_eq.mp heq)
  rw [pick, hnone]

/-- If all ids are there, so is the answer: for each id the first stored item that has it. -/
theorem mapM_pick_present (what : String) (h : ∀ want ∈ ids, ∃ item ∈ stored, id item = want) :
    ∃ items, ids.mapM (pick what id stored) = .ok items ∧ List.Forall₂ (IsFirst stored id) ids items := by
  induction ids with
  | nil => exact ⟨[], rfl, .nil⟩
  | cons want ids ih =>
    obtain ⟨hwant, hothers⟩ := List.forall_mem_cons.mp h
    obtain ⟨item, hitem, hfirst⟩ := exists_pick what hwant
    obtain ⟨items, hitems, hall⟩ := ih hothers
    refine ⟨item :: items, ?_, .cons hfirst hall⟩
    rw [List.mapM_cons, hitem, hitems]
    rfl

/-- The search ends at the first id that is missing. -/
theorem mapM_pick_absent (what : String) {front rest : List Int32}
    (hfront : ∀ other ∈ front, ∃ item ∈ stored, id item = other) (habsent : ∀ item ∈ stored, id item ≠ want) :
    (front ++ want :: rest).mapM (pick what id stored) = .error (absentError what want) := by
  induction front with
  | nil =>
    rw [List.nil_append, List.mapM_cons, pick_absent what habsent]
    rfl
  | cons other front ih =>
    obtain ⟨hother, hfront⟩ := List.forall_mem_cons.mp hfront
    obtain ⟨item, hitem, -⟩ := exists_pick what hother
    rw [List.cons_append, List.mapM_cons, hitem, ih hfront]
    rfl

/-- If all ids are stored, each gets its first item. -/
theorem select_present (what : String) (hids : ids ≠ []) (h : ∀ want ∈ ids, ∃ item ∈ stored, id item = want) :
    ∃ items, select what id stored ids = .ok items ∧ List.Forall₂ (IsFirst stored id) ids items := by
  rw [select_eq what hids]
  exact mapM_pick_present what h

/-- If one id is missing there is no answer, and the error names the first one that is. -/
theorem select_absent (what : String) (h : FirstAbsent stored id ids want) :
    select what id stored ids = .error (absentError what want) := by
  obtain ⟨front, rest, rfl, hfront, habsent⟩ := h
  rw [select_eq what (List.append_ne_nil_of_right_ne_nil _ (List.cons_ne_nil _ _))]
  exact mapM_pick_absent what hfront habsent

end Device

end Selection

/-! ## The way there and back -/

/-- The queries that take ids: where a device stores their items, which ids these have, and what they are ids of. -/
inductive Filtered : (q : PowerQuery) → (Device → List q.Item) → (q.Item → Int32) → String → Prop where
  | residency : Filtered .residency Device.residencies StateResidencyResult.id "power entity"
  | consumed : Filtered .consumed Device.consumers EnergyConsumerResult.id "energy consumer"
  | readings : Filtered .readings Device.measurements EnergyMeasurement.id "channel"

/-- The device after one more request. -/
def Device.asked (d : Device) (request : PowerRequest) : Device :=
  { d with requests := d.requests ++ [request] }

namespace Filtered

variable {q : PowerQuery} {stored : Device → List q.Item} {id : q.Item → Int32} {what : String}

/-- A filtered query takes ids. -/
theorem takesIds (h : Filtered q stored id what) : q.takesIds = true := by
  cases h <;> rfl

/-- Its answer is a selection from what the device has stored. -/
theorem answer_eq (h : Filtered q stored id what) (d : Device) (ids : List Int32) :
    d.answer q ids = Device.select what id (stored d) ids := by
  cases h <;> rfl

end Filtered

/-- What an error of an object's service is to a client: through a socket it comes as its text. -/
def ObjectRef.relay : ObjectRef → ServiceError → ServiceError
  | .socket _, e => e.acrossSocket
  | .process _, e | .manual _, e => e

variable {w : World Device} {object : ObjectRef} {q : PowerQuery} {ids : List Int32}

/-- The device records the request and answers from its contents. -/
theorem Device.run_stats (hq : q.takesIds = true) (d : Device) :
    (Device.stats q ids).run d = ⟨some (d.answer q ids), d.asked ⟨q, ids⟩, []⟩ := by
  rw [Device.stats, Act.run_update, if_pos hq]
  rfl

/-- A query through an object that reaches the device comes to what the device makes of it. -/
theorem World.Reaches.run_query (h : w.Reaches (PowerStats.stub Device.stats) object) (hq : q.takesIds = true)
    (hfits : ∀ b, object = .socket b → PowerStats.FramesFit Device.stats q ids w.backend) :
    ∃ w', (PowerStats.proxy (World.transact object) q ids).run w =
        ⟨some ((w.backend.answer q ids).mapError object.relay), w', []⟩ ∧
      w'.backend = w.backend.asked ⟨q, ids⟩ ∧ w'.caches = w.caches ∧
      w'.Reaches (PowerStats.stub Device.stats) object := by
  have hgiven : q.given ids = ids := if_pos hq
  cases h with
  | process n hanswers =>
    have hrun := World.run_proxy_process hanswers q ids
    rw [hgiven, Device.run_stats hq] at hrun
    have hrelay : (w.backend.answer q ids).mapError (ObjectRef.relay (.process n)) = w.backend.answer q ids := by
      cases w.backend.answer q ids <;> rfl
    refine ⟨w.transacted n (w.backend.asked ⟨q, ids⟩), ?_, rfl, rfl, .process n (hanswers.after_transact _)⟩
    rw [hrun, hrelay]
  | socket b hconnected =>
    have hframes := hfits b rfl
    have hstub : (PowerStats.stub Device.stats q.code (q.payload ids)).run w.backend =
        ⟨some ((w.backend.answer q ids).map Parcel.toJson), w.backend.asked ⟨q, ids⟩, []⟩ := by
      rw [PowerStats.stub_payload, PowerStats.reply_eq, hgiven, Act.run_map, Device.run_stats hq]
      rfl
    have hvalue := congrArg Outcome.value hstub
    have hrun := World.run_transact_of_connected hconnected hframes.carried_request hvalue (hframes.carried_reply hvalue)
    rw [hstub] at hrun
    have hread : (((w.backend.answer q ids).map Parcel.toJson).mapError ServiceError.acrossSocket).bind
        (readParcel (List q.Item)) = (w.backend.answer q ids).mapError ServiceError.acrossSocket := by
      cases w.backend.answer q ids with
      | error e => rfl
      | ok items => exact readParcel_toJson q.isFaithful_items items
    refine ⟨w.withSite ⟨w.backend.asked ⟨q, ids⟩, w.network⟩, ?_, rfl, rfl, .socket b (hconnected.of_network_eq rfl)⟩
    have hpayload : Parcel.toJson (if q.takesIds then some ids else none) = q.payload ids := rfl
    rw [PowerStats.proxy, Service.transact_eq, hpayload, Act.run_map, hrun]
    exact congrArg (fun answer => Outcome.mk (some answer) _ []) hread

/-- The facade has a cache that holds a handle to the object. -/
def PowerFacade.Initialized {σ : Type} (f : PowerFacade) (object : ObjectRef) (w : World σ) : Prop :=
  ∃ n cell entry, f.cache = some n ∧ w.caches[n]? = some cell ∧ cell.cache.cached = some entry ∧
    entry.handle.object = object

/-- What is logged of an answer that the facade gets. -/
def PowerFacade.complaints {α : Type} (q : PowerQuery) : Except ServiceError α → List Record
  | .ok _ => []
  | .error e => [⟨.error, "Failed to get " ++ q.subject ++ " from PowerStats HAL: " ++ e.message⟩]

/-- A cache that holds a handle hands it out, and does nothing else. -/
theorem World.run_cacheGet_of_cached {σ : Type} {w : World σ} {n : Nat} {cell : CacheCell} {entry : Cached Handle}
    (hcell : w.caches[n]? = some cell) (hcached : cell.cache.cached = some entry) :
    (World.cacheGet n).run w = ⟨some (some entry.handle), w, []⟩ := by
  obtain ⟨hvalue, hstate⟩ := World.run_cacheGet_of_resolved hcell hcached
  have hget := Cache.run_get_of_resolved cell.name (r := World.resolver n cell) (s := w) hcached
  have hlog : ((World.cacheGet n).run w).log = [] := by
    simp only [World.cacheGet, Act.run_bind, Act.run_get, hcell, hget, Act.run_modify, Act.run_pure, List.append_nil]
  calc (World.cacheGet n).run w
      = ⟨((World.cacheGet n).run w).value, ((World.cacheGet n).run w).state, ((World.cacheGet n).run w).log⟩ := rfl
    _ = ⟨some (some entry.handle), w, []⟩ := by rw [hvalue, hstate, hlog]

/-- A query of an initialized facade is the query through its object; an error is logged, and the answer is empty. -/
theorem PowerFacade.run_ask_of_initialized {σ : Type} {f : PowerFacade} {w w' : World σ} (h : f.Initialized object w)
    {answer : Except ServiceError (List q.Item)}
    (hrun : (PowerStats.proxy (World.transact object) q ids).run w = ⟨some answer, w', []⟩) :
    (f.ask q ids).run w =
      ⟨some (answer.toOption.getD []), w', complaints q answer⟩ := by
  obtain ⟨n, cell, entry, hcache, hcell, hcached, rfl⟩ := h
  have hget := World.run_cacheGet_of_cached hcell hcached
  have hvalue : ((PowerStats.proxy (World.transact entry.handle.object) q ids).run w).value = some answer :=
    congrArg Outcome.value hrun
  rw [ask, hcache]
  dsimp only
  rw [Act.run_bind_of_value (congrArg Outcome.value hget), hget]
  dsimp only
  rw [Act.run_bind_of_value hvalue, hrun]
  cases answer with
  | ok items => rfl
  | error e => rfl

/-! ## Connecting -/

/-- A registry in which the service is found under its name, alive, and the object that a client gets: one of the process, or a
new one for the sockets of a directory. -/
inductive World.Offers {σ : Type} (w : World σ) (service : Service σ) : Registrar → ObjectRef → Prop where
  | process {i : Nat} {o : LocalObject σ Recipient} (manual : w.manual = [])
    (find : w.directory.find? powerServiceName = some i) (object : w.directory.object? i = some o) (alive : o.alive = true)
    (links : o.failLinks = false) (transactions : o.failTransactions = false) (service_eq : o.service = service) :
    w.Offers service .process (.process i)
  | sockets {h : Nat} (provides : w.network.Provides powerServiceName service (some h)) :
    w.Offers service .sockets (.socket w.network.objects.length)

section Connecting

variable {σ : Type} {w : World σ} {service : Service σ} {f : PowerFacade}

/-- What is done with caches changes nothing but caches. -/
theorem World.site_withCache (n : Nat) (cache : Cache Handle) : (w.withCache n cache).site = w.site := rfl

theorem World.site_withNewCache (registrar : Registrar) (name : String) : (w.withNewCache registrar name).site = w.site := rfl

/-- Dropping a cache is nothing to the site. -/
theorem World.site_withoutCache? (dropped : Option Nat) : (w.withoutCache? dropped).site = w.site := by
  cases dropped <;> rfl

/-- It is nothing to the directory either. -/
theorem World.directory_withoutCache? (dropped : Option Nat) : (w.withoutCache? dropped).directory = w.directory := by
  cases dropped <;> rfl

/-- Dropping a cache takes no handle away. -/
theorem World.cache_withoutCache? {n : Nat} {cell : CacheCell} (h : w.caches[n]? = some cell) (dropped : Option Nat) :
    ∃ cell', (w.withoutCache? dropped).caches[n]? = some cell' ∧ cell'.cache = cell.cache := by
  cases dropped with
  | none => exact ⟨cell, h, rfl⟩
  | some m =>
    rw [withoutCache?, getElem?_caches_withoutCache, h]
    split
    · exact ⟨_, rfl, rfl⟩
    · exact ⟨_, rfl, rfl⟩

/-- A facade whose new cache holds a handle is initialized. -/
theorem PowerFacade.initialized_of_sought {cell : CacheCell} {entry : Cached Handle}
    (hvalue : (f.sought w).value = some (some entry.handle)) (hcell : (f.sought w).state.caches[w.caches.length]? = some cell)
    (hcached : cell.cache.cached = some entry) :
    (f.connect.run w).value = some (true, { f with cache := some w.caches.length }) ∧
      (f.connect.run w).state = (f.sought w).state.withoutCache? f.cache ∧
      PowerFacade.Initialized { f with cache := some w.caches.length } entry.handle.object (f.connect.run w).state := by
  obtain ⟨hconnected, hstate⟩ := run_connect hvalue
  obtain ⟨cell', hcell', hcache⟩ := World.cache_withoutCache? hcell f.cache
  refine ⟨hconnected, hstate, _, cell', entry, rfl, ?_, hcache ▸ hcached, rfl⟩
  rw [hstate]
  exact hcell'

/-- A facade that is connected where its service is offered is initialized, and its object reaches the service. -/
theorem PowerFacade.initialized_of_offered {object : ObjectRef} (h : w.Offers service f.registrar object) :
    (f.connect.run w).value = some (true, { f with cache := some w.caches.length }) ∧
      PowerFacade.Initialized { f with cache := some w.caches.length } object (f.connect.run w).state ∧
      (f.connect.run w).state.Reaches service object ∧ (f.connect.run w).state.backend = w.backend := by
  have hnew := World.getElem?_caches_withNewCache (w := w) f.registrar powerServiceName w.caches.length
  rw [if_pos rfl] at hnew
  obtain ⟨registrar, cache⟩ := f
  cases h with
  | @process i o hmanual hfind hobject halive hlinks htransactions hservice =>
    obtain ⟨hvalue, hstate⟩ := World.run_cacheGet_of_linked (w := w.withNewCache .process powerServiceName) hmanual hnew rfl
      rfl hfind hobject halive hlinks
    have hsought : (sought ⟨.process, cache⟩ w).value =
        some (some (Cached.handle ⟨⟨w.caches.length, 1, .process i⟩, 1⟩)) := hvalue
    have hcell := congrArg (·.caches[w.caches.length]?) hstate
    rw [World.getElem?_caches_withCache_self (by exact hnew)] at hcell
    obtain ⟨hconnected, hfinal, hinitialized⟩ := initialized_of_sought hsought hcell rfl
    refine ⟨hconnected, hinitialized, ?_, ?_⟩
    · rw [hfinal, sought, hstate]
      refine .process i ⟨o.accept (.cache w.caches.length 1), ?_, halive, htransactions, hservice⟩
      rw [World.directory_withoutCache?]
      exact Directory.object?_update_self hobject _
    · rw [hfinal, sought, hstate]
      exact congrArg Site.backend (World.site_withoutCache? _)
  | @sockets h hprovides =>
    obtain ⟨hvalue, hstate⟩ := World.run_cacheGet_of_heard (w := w.withNewCache .sockets powerServiceName) hnew rfl rfl
      hprovides
    have hsought : (sought ⟨.sockets, cache⟩ w).value =
        some (some (Cached.handle ⟨⟨w.caches.length, 1, .socket w.network.objects.length⟩, 1⟩)) := hvalue
    have hcell := congrArg (·.caches[w.caches.length]?) hstate
    rw [World.getElem?_caches_withCache_self (by exact hnew)] at hcell
    obtain ⟨hconnected, hfinal, hinitialized⟩ := initialized_of_sought hsought hcell rfl
    -- the site is the one that the lookup and the link have left, whatever is done with caches
    have hsite : (connect ⟨.sockets, cache⟩ |>.run w).state.site =
        w.site.bound powerServiceName (.cache w.caches.length 1) := by
      rw [hfinal, sought, hstate, World.site_withoutCache?, World.site_withCache, World.site_withSite, World.site_withNewCache]
      rfl
    refine ⟨hconnected, hinitialized, .socket w.network.objects.length ?_, ?_⟩
    · rw [hsite]
      exact Site.connected_bound (s := w.site) hprovides (.cache w.caches.length 1)
    · refine (congrArg Site.backend hsite).trans ?_
      exact Site.backend_bound (s := w.site) hprovides (.cache w.caches.length 1)

end Connecting

/-! ## The law -/

/-- What a filtered query of an initialized facade comes to, through an object that reaches a device. -/
structure FilterLaw (f : PowerFacade) (object : ObjectRef) (w : World Device) (q : PowerQuery) (stored : Device → List q.Item)
    (id : q.Item → Int32) (what : String) (ids : List Int32) : Prop where
  /-- No ids are all items, as they are stored. -/
  all : ids = [] → ((f.ask q ids).run w).value = some (stored w.backend)
  /-- If all ids are there, the answer has one item for each, in their order, and it is the first stored one of that id. -/
  present : ids ≠ [] → (∀ want ∈ ids, ∃ item ∈ stored w.backend, id item = want) →
    ∃ items, ((f.ask q ids).run w).value = some items ∧ List.Forall₂ (IsFirst (stored w.backend) id) ids items
  /-- If one is missing, the answer is empty; the error behind it, which is logged, names the first one that is. -/
  absent : (∃ want ∈ ids, ∀ item ∈ stored w.backend, id item ≠ want) →
    ((f.ask q ids).run w).value = some [] ∧
      ∃ first, FirstAbsent (stored w.backend) id ids first ∧
        ((PowerStats.proxy (World.transact object) q ids).run w).value =
          some (.error (object.relay (absentError what first))) ∧
        ((f.ask q ids).run w).log =
          [⟨.error, "Failed to get " ++ q.subject ++ " from PowerStats HAL: " ++
            (object.relay (absentError what first)).message⟩]
  /-- The device has kept the request as it was made. -/
  recorded : ((f.ask q ids).run w).state.backend = w.backend.asked ⟨q, ids⟩
  /-- The facade is ready for the next query. -/
  ready : f.Initialized object ((f.ask q ids).run w).state ∧
    ((f.ask q ids).run w).state.Reaches (PowerStats.stub Device.stats) object

/-- Items by their ids, from one end to the other. -/
structure SelectionLaw : Prop where
  /-- Connecting initializes the facade wherever the device is offered, and asks nothing of the device. -/
  initialized : ∀ (w : World Device) (f : PowerFacade) (object : ObjectRef),
    w.Offers (PowerStats.stub Device.stats) f.registrar object →
    (f.connect.run w).value = some (true, { f with cache := some w.caches.length }) ∧
      PowerFacade.Initialized { f with cache := some w.caches.length } object (f.connect.run w).state ∧
      (f.connect.run w).state.Reaches (PowerStats.stub Device.stats) object ∧ (f.connect.run w).state.backend = w.backend
  /-- The three queries that take ids; through a socket, if their frames are not too long. -/
  filtered : ∀ {q : PowerQuery} {stored : Device → List q.Item} {id : q.Item → Int32} {what : String},
    Filtered q stored id what → ∀ (f : PowerFacade) (object : ObjectRef) (w : World Device) (ids : List Int32),
    f.Initialized object w → w.Reaches (PowerStats.stub Device.stats) object →
    (∀ b, object = .socket b → PowerStats.FramesFit Device.stats q ids w.backend) →
    FilterLaw f object w q stored id what ids

/-- The law of items by their ids, whatever is stored. -/
theorem selection_law : SelectionLaw := by
  constructor
  case initialized => exact fun w f object h => PowerFacade.initialized_of_offered h
  case filtered =>
    intro q stored id what hfiltered f object w ids hinitialized hreaches hfits
    obtain ⟨w', hrun, hbackend, hcaches, hstill⟩ := hreaches.run_query hfiltered.takesIds hfits
    have hask := PowerFacade.run_ask_of_initialized hinitialized hrun
    rw [hfiltered.answer_eq] at hrun hask
    constructor
    case all =>
      rintro rfl
      rw [hask]
      rfl
    case present =>
      intro hids hall
      obtain ⟨items, hitems, hfirst⟩ := Device.select_present what hids hall
      rw [hitems] at hask
      exact ⟨items, congrArg Outcome.value hask, hfirst⟩
    case absent =>
      intro hmissing
      obtain ⟨first, hfirst⟩ := exists_firstAbsent hmissing
      rw [Device.select_absent what hfirst] at hrun hask
      exact ⟨congrArg Outcome.value hask, first, hfirst, congrArg Outcome.value hrun, congrArg Outcome.log hask⟩
    case recorded => rw [hask, hbackend]
    case ready =>
      rw [hask]
      obtain ⟨n, cell, entry, hcache, hcell, hcached, hobject⟩ := hinitialized
      exact ⟨⟨n, cell, entry, hcache, hcaches ▸ hcell, hcached, hobject⟩, hstill⟩

/-! ### A consumer that is not there -/

namespace Filtering

/-- A process with the sample device. -/
def world : World Device :=
  { World.new .sample "d" with directory := (Directory.empty.register powerServiceName (PowerStats.stub Device.stats)).2 }

/-- The registered stub is on offer. -/
theorem offers : world.Offers (PowerStats.stub Device.stats) .process (.process 0) :=
  .process rfl rfl rfl rfl rfl rfl rfl

/-- The world with the facade connected. -/
def connected : World Device :=
  ((PowerFacade.new .process).connect.run world).state

end Filtering

/-- One of three consumers is there, and the answer is empty; the device has the request. -/
theorem missing_consumer_empties_answer :
    ((PowerFacade.new .process).connect.run Filtering.world).value = some (true, ⟨.process, some 0⟩) ∧
      ((PowerFacade.ask ⟨.process, some 0⟩ .consumed [0, 7, 9]).run Filtering.connected).value = some [] ∧
      ((PowerFacade.ask ⟨.process, some 0⟩ .consumed [0, 7, 9]).run Filtering.connected).state.backend.requests =
        [⟨.consumed, [0, 7, 9]⟩] := by
  obtain ⟨hvalue, hinitialized, hreaches, hbackend⟩ :=
    selection_law.initialized Filtering.world (.new .process) _ Filtering.offers
  have hlaw := selection_law.filtered .consumed _ _ _ [0, 7, 9] hinitialized hreaches nofun
  refine ⟨hvalue, (hlaw.absent ?_).1, ?_⟩
  · rw [hbackend]
    have habsent : (7 : Int32) ∉ Filtering.world.backend.consumers.map (·.id) := by decide
    exact ⟨7, by decide, fun item hitem hid => habsent (hid ▸ List.mem_map_of_mem hitem)⟩
  · refine (congrArg Device.requests hlaw.recorded).trans ?_
    rw [hbackend]
    rfl

end Switchboard
