import Switchboard.Proofs.Power.Parallel

/-!
# One facade, two registries

The facade for the power statistics finds them in the registry of its own process, or through the sockets of a directory. A
`PowerSystem` is a facade with either, and with the provider of its service; `PowerSystem.run` takes it through publications of
the provider, its shutdowns, connections and queries, and after every step the watchers tell of the deaths that it brought.

`registries_law` says that the facade does not tell the registries apart: as long as one provider lives at a time and neither
frames nor paths are too long, every step returns the same with both, and the implementation gets the same requests in the same
order. The two systems go side by side (`Alike`): the facade's cache is resolved in both or in neither, in the one to an object
that is connected to the provider and in the other to the object of the provider itself, and either is linked to its death.
-/

namespace Switchboard

variable {σ : Type}

/-! ## Systems -/

/-- A step of whoever has the provider, or of whoever has the facade. -/
inductive PowerStep where
  | publish
  | shutdown
  | connect
  | ask (q : PowerQuery) (ids : List Int32)
deriving DecidableEq, Repr

/-- What a step returns. -/
inductive PowerAnswer where
  | published (ok : Bool)
  | ended
  | connected (ok : Bool)
  | items (q : PowerQuery) (items : List q.Item)

/-- Publications only while no provider lives. -/
def PowerStep.orderly : Bool → List PowerStep → Bool
  | _, [] => true
  | live, .publish :: rest => !live && orderly true rest
  | _, .shutdown :: rest => orderly false rest
  | live, .connect :: rest | live, .ask _ _ :: rest => orderly live rest

/-- A facade in its world, and the last provider of its service: a host or an object of the process. -/
structure PowerSystem (σ : Type) where
  world : World σ
  facade : PowerFacade
  provider : Option Nat

/-- What the steps of a run returned, `none` for a step that waits forever, and the system behind the last one. -/
structure PowerRun (σ : Type) where
  answers : List (Option PowerAnswer)
  system : PowerSystem σ

namespace PowerSystem

/-- A world with a facade and nothing else. -/
def start (registrar : Registrar) (backend : σ) (dir : String) : PowerSystem σ :=
  ⟨.new backend dir, .new registrar, none⟩

/-- Does something on the world. -/
def onWorld {α : Type} (x : Act (World σ) α) : Act (PowerSystem σ) α :=
  Act.within (·.world) (fun w s => { s with world := w }) x

/-- What a step does. -/
def act (hal : PowerStats σ) : PowerStep → Act (PowerSystem σ) PowerAnswer
  | .publish => do
    let s ← Act.get
    let n ← onWorld (World.provide powerServiceName (PowerStats.stub hal) s.facade.registrar)
    Act.modify fun s => { s with provider := n.or s.provider }
    pure (.published n.isSome)
  | .shutdown => do
    let s ← Act.get
    match s.provider with
    | none => pure .ended
    | some n => do
      onWorld (World.retire n s.facade.registrar)
      pure .ended
  | .connect => do
    let s ← Act.get
    let (ok, facade) ← onWorld s.facade.connect
    Act.modify fun s => { s with facade }
    pure (.connected ok)
  | .ask q ids => do
    let s ← Act.get
    PowerAnswer.items q <$> onWorld (s.facade.ask q ids)

/-- A step, after which the watchers tell of the deaths that it brought. -/
def step (hal : PowerStats σ) (a : PowerStep) : Act (PowerSystem σ) PowerAnswer := do
  let answer ← act hal a
  onWorld World.settle
  pure answer

/-- One step after another; behind a step that waits forever there is no other. -/
def run (hal : PowerStats σ) : List PowerStep → PowerSystem σ → PowerRun σ
  | [], x => ⟨[], x⟩
  | a :: rest, x =>
    match ((step hal a).run x).value with
    | none => ⟨[none], ((step hal a).run x).state⟩
    | some answer =>
      let later := run hal rest ((step hal a).run x).state
      ⟨some answer :: later.answers, later.system⟩

/-- The frames of a step are not too long: a query has any if the facade gets a handle. -/
def StepFits (hal : PowerStats σ) (x : PowerSystem σ) : PowerStep → Prop
  | .ask q ids => ∀ n handle, x.facade.cache = some n → ((World.cacheGet n).run x.world).value = some (some handle) →
    PowerStats.FramesFit hal q ids x.world.backend
  | _ => True

/-- All frames of a run are not too long. -/
def Fits (hal : PowerStats σ) : PowerSystem σ → List PowerStep → Prop
  | _, [] => True
  | x, a :: rest => x.StepFits hal a ∧
    ∀ answer, ((step hal a).run x).value = some answer → Fits hal ((step hal a).run x).state rest

/-! ### Runs -/

variable (hal : PowerStats σ) {x : PowerSystem σ}

theorem run_onWorld {α : Type} (a : Act (World σ) α) : (onWorld a).run x =
    ⟨(a.run x.world).value, { x with world := (a.run x.world).state }, (a.run x.world).log⟩ :=
  rfl

/-- To publish is to provide the service through the facade's registrar. -/
theorem run_act_publish {n : Option Nat}
    (h : ((World.provide powerServiceName (PowerStats.stub hal) x.facade.registrar).run x.world).value = some n) :
    ((act hal .publish).run x).value = some (.published n.isSome) ∧
      ((act hal .publish).run x).state =
        ⟨((World.provide powerServiceName (PowerStats.stub hal) x.facade.registrar).run x.world).state, x.facade,
          n.or x.provider⟩ := by
  simp [act, Act.run_bind, run_onWorld, h]

/-- Without a provider there is nothing to shut down. -/
theorem run_act_shutdown_of_none (h : x.provider = none) : (act hal .shutdown).run x = ⟨some .ended, x, []⟩ := by
  simp [act, Act.run_bind, h]

/-- To shut down is to retire the provider. -/
theorem run_act_shutdown {n : Nat} (hn : x.provider = some n)
    (h : ((World.retire n x.facade.registrar).run x.world).value = some ()) :
    ((act hal .shutdown).run x).value = some .ended ∧
      ((act hal .shutdown).run x).state = { x with world := ((World.retire n x.facade.registrar).run x.world).state } := by
  simp [act, Act.run_bind, run_onWorld, hn, h]

/-- To connect is to connect the facade. -/
theorem run_act_connect {ok : Bool} {facade : PowerFacade}
    (h : (x.facade.connect.run x.world).value = some (ok, facade)) :
    ((act hal .connect).run x).value = some (.connected ok) ∧
      ((act hal .connect).run x).state = ⟨(x.facade.connect.run x.world).state, facade, x.provider⟩ := by
  simp [act, Act.run_bind, run_onWorld, h]

/-- To ask is to ask the facade. -/
theorem run_act_ask (q : PowerQuery) (ids : List Int32) :
    ((act hal (.ask q ids)).run x).value = ((x.facade.ask q ids).run x.world).value.map (PowerAnswer.items q) ∧
      ((act hal (.ask q ids)).run x).state = { x with world := ((x.facade.ask q ids).run x.world).state } := by
  simp [act, Act.run_bind, run_onWorld]

/-- A step is what is done, and then every notice of a death, unless that was never over. -/
theorem run_step (a : PowerStep) (x : PowerSystem σ) :
    ((step hal a).run x).value = ((act hal a).run x).value ∧
      ((step hal a).run x).state =
        if ((act hal a).run x).value.isSome then
          { ((act hal a).run x).state with world := (World.settle.run ((act hal a).run x).state.world).state }
        else ((act hal a).run x).state := by
  rw [step, Act.run_bind]
  cases hv : ((act hal a).run x).value with
  | none => exact ⟨rfl, rfl⟩
  | some answer => simp [run_onWorld, World.value_settle]

/-- A step that is never over is the last one. -/
theorem run_cons_of_hang (a : PowerStep) (rest : List PowerStep) (h : ((step hal a).run x).value = none) :
    run hal (a :: rest) x = ⟨[none], ((step hal a).run x).state⟩ := by
  simp only [run, h]

/-- The other steps go on behind one that is over. -/
theorem run_cons_of_value (a : PowerStep) (rest : List PowerStep) {answer : PowerAnswer}
    (h : ((step hal a).run x).value = some answer) :
    run hal (a :: rest) x =
      ⟨some answer :: (run hal rest ((step hal a).run x).state).answers,
        (run hal rest ((step hal a).run x).state).system⟩ := by
  simp only [run, h]

end PowerSystem

/-! ## Side by side -/

/-- The system with the sockets of a directory and that with the registry of the process. -/
structure Alike (service : Service σ) (dir : String) (live : Option (Nat × Nat)) (x y : PowerSystem σ) : Prop where
  sockets : x.facade.registrar = .sockets
  process : y.facade.registrar = .process
  cache : x.facade.cache = y.facade.cache
  paired : ∀ n, x.facade.cache = some n → Paired service live x.world y.world n
  parallel : Parallel service live x.world y.world
  providers : x.provider.isSome = y.provider.isSome ∧
    ∀ h i, live = some (h, i) → x.provider = some h ∧ y.provider = some i
  directory : x.world.network.dir = dir

/-- A step came to the same in both systems, which are alike again unless it hangs. -/
structure Agree (service : Service σ) (dir : String) (live : Bool) (o p : Outcome (PowerSystem σ) PowerAnswer) : Prop where
  value : o.value = p.value
  backend : o.state.world.backend = p.state.world.backend
  alike : o.value ≠ none → ∃ providers, Alike service dir providers o.state p.state ∧ providers.isSome = live

section Steps

variable {hal : PowerStats σ} {dir : String} {live : Option (Nat × Nat)} {x y : PowerSystem σ}

open PowerSystem

/-- In the beginning the two systems are alike. -/
theorem Alike.start (service : Service σ) (backend : σ) (dir : String) :
    Alike service dir none (start .sockets backend dir) (start .process backend dir) where
  sockets := rfl
  process := rfl
  cache := rfl
  paired _ := nofun
  parallel := {
    provides := Network.provides_new dir powerServiceName service
    holds := ⟨rfl, rfl, nofun, nofun, nofun⟩
    backend := rfl
    length := rfl }
  providers := ⟨rfl, nofun⟩
  directory := rfl

/-- Two steps agree if they return the same and leave the systems alike. -/
theorem Agree.of_alike {service : Service σ} {o p : Outcome (PowerSystem σ) PowerAnswer} {answer : PowerAnswer}
    (hvalue : o.value = some answer) (hvalue' : p.value = some answer) (h : Alike service dir live o.state p.state) :
    Agree service dir live.isSome o p :=
  ⟨hvalue.trans hvalue'.symm, h.parallel.backend, fun _ => ⟨live, h, rfl⟩⟩

/-- Nobody is left to be told behind a step that keeps the worlds parallel. -/
theorem Agree.step {service : Service σ} {b : Bool} {a : PowerStep}
    (h : Agree service dir b ((act hal a).run x) ((act hal a).run y)) :
    Agree service dir b ((step hal a).run x) ((step hal a).run y) := by
  obtain ⟨hxv, hxs⟩ := run_step hal a x
  obtain ⟨hyv, hys⟩ := run_step hal a y
  cases hv : ((act hal a).run x).value with
  | none =>
    have hv' : ((act hal a).run y).value = none := h.value ▸ hv
    rw [hv] at hxv hxs
    rw [hv'] at hyv hys
    refine ⟨hxv.trans hyv.symm, ?_, fun hcame => absurd hxv hcame⟩
    rw [hxs, hys]
    exact h.backend
  | some answer =>
    have hv' : ((act hal a).run y).value = some answer := h.value ▸ hv
    obtain ⟨providers, halike, hlive⟩ := h.alike (by rw [hv]; nofun)
    obtain ⟨hleft, hright⟩ := halike.parallel.settle
    rw [hv, hleft] at hxs
    rw [hv', hright] at hys
    have hxs' : ((PowerSystem.step hal a).run x).state = ((act hal a).run x).state := hxs
    have hys' : ((PowerSystem.step hal a).run y).state = ((act hal a).run y).state := hys
    refine ⟨hxv.trans (h.value.trans hyv.symm), ?_, fun _ => ⟨providers, ?_, hlive⟩⟩
    · rw [hxs', hys']
      exact h.backend
    · rw [hxs', hys']
      exact halike

/-- A publication at both keeps them alike, and both tell of the same success. -/
theorem Alike.publish (hal : PowerStats σ) (h : Alike (PowerStats.stub hal) dir none x y)
    (haddress : x.world.network.isAddressable powerServiceName = true) :
    Agree (PowerStats.stub hal) dir true ((act hal .publish).run x) ((act hal .publish).run y) := by
  obtain ⟨w', v', n, i, hv, hs, hv', hs', hparallel, hcaches, hcaches', hdir⟩ := h.parallel.publish haddress
  rw [← h.sockets] at hv hs
  rw [← h.process] at hv' hs'
  obtain ⟨hxv, hxs⟩ := run_act_publish hal hv
  obtain ⟨hyv, hys⟩ := run_act_publish hal hv'
  rw [hs] at hxs
  rw [hs'] at hys
  have halike : Alike (PowerStats.stub hal) dir (some (n, i)) ((act hal .publish).run x).state
      ((act hal .publish).run y).state := by
    rw [hxs, hys]
    refine ⟨h.sockets, h.process, h.cache, ?_, hparallel, ⟨rfl, ?_⟩, hdir.trans h.directory⟩
    · intro m hm
      exact (h.paired m hm).of_none (by rw [hcaches]) (by rw [hcaches'])
    · rintro _ _ ⟨⟩
      exact ⟨rfl, rfl⟩
  exact .of_alike hxv hyv halike

/-- So does a connection. -/
theorem Alike.connect {service : Service σ} (hal : PowerStats σ) (h : Alike service dir live x y) :
    Agree service dir live.isSome ((act hal .connect).run x) ((act hal .connect).run y) := by
  obtain ⟨w', v', ok, cache, hv, hs, hv', hs', hparallel, hpaired, hdir⟩ :=
    h.parallel.connect h.sockets h.process h.cache h.paired
  obtain ⟨hxv, hxs⟩ := run_act_connect hal hv
  obtain ⟨hyv, hys⟩ := run_act_connect hal hv'
  rw [hs] at hxs
  rw [hs'] at hys
  refine .of_alike hxv hyv ?_
  rw [hxs, hys]
  exact ⟨rfl, rfl, rfl, hpaired, hparallel, h.providers, hdir.trans h.directory⟩

/-- So does a query whose frames fit, and both give the same items. -/
theorem Alike.ask (h : Alike (PowerStats.stub hal) dir live x y) (q : PowerQuery) (ids : List Int32)
    (hfits : x.StepFits hal (.ask q ids)) :
    Agree (PowerStats.stub hal) dir live.isSome ((act hal (.ask q ids)).run x) ((act hal (.ask q ids)).run y) := by
  obtain ⟨hvalue, hbackend, hgoes⟩ := h.parallel.ask h.cache h.paired q ids hfits
  obtain ⟨hxv, hxs⟩ := run_act_ask hal (x := x) q ids
  obtain ⟨hyv, hys⟩ := run_act_ask hal (x := y) q ids
  refine ⟨by rw [hxv, hyv, hvalue], by rw [hxs, hys]; exact hbackend, fun hcame => ⟨live, ?_, rfl⟩⟩
  obtain ⟨hparallel, hpaired, hdir⟩ := hgoes fun hnone => hcame (by rw [hxv, hnone, Option.map_none])
  rw [hxs, hys]
  exact ⟨h.sockets, h.process, h.cache, hpaired, hparallel, h.providers, hdir.trans h.directory⟩

/-- Where nobody lives there is nobody to shut down. -/
theorem Alike.shutdown_of_none {service : Service σ} (hal : PowerStats σ) (h : Alike service dir none x y) :
    Agree service dir false ((act hal .shutdown).run x) ((act hal .shutdown).run y) := by
  cases hx : x.provider with
  | none =>
    have hy : y.provider = none := Option.not_isSome_iff_eq_none.mp (by rw [← h.providers.1, hx]; nofun)
    rw [run_act_shutdown_of_none hal hx, run_act_shutdown_of_none hal hy]
    exact ⟨rfl, h.parallel.backend, fun _ => ⟨none, h, rfl⟩⟩
  | some n =>
    obtain ⟨i, hy⟩ := Option.isSome_iff_exists.mp (h.providers.1 ▸ Option.isSome_of_mem hx)
    obtain ⟨hleft, hv', hs'⟩ := h.parallel.retire_of_none n i
    rw [← h.sockets] at hleft
    rw [← h.process] at hv' hs'
    obtain ⟨hxv, hxs⟩ := run_act_shutdown hal hx (congrArg Outcome.value hleft)
    obtain ⟨hyv, hys⟩ := run_act_shutdown hal hy hv'
    rw [hleft] at hxs
    rw [hs'] at hys
    have halike : Alike service dir none ((act hal .shutdown).run x).state ((act hal .shutdown).run y).state := by
      rw [hxs, hys]
      exact h
    exact .of_alike hxv hyv halike

/-- The provider ends in both systems; the watchers have told its recipients when the step is over. -/
theorem Alike.shutdown {service : Service σ} {n i : Nat} (hal : PowerStats σ) (h : Alike service dir (some (n, i)) x y) :
    Agree service dir false ((PowerSystem.step hal .shutdown).run x) ((PowerSystem.step hal .shutdown).run y) := by
  obtain ⟨hx, hy⟩ := h.providers.2 n i rfl
  obtain ⟨w', v', hv, hs, hv', hs', hparallel, hpaired, hdir⟩ := h.parallel.retire
  rw [← h.sockets] at hv hs
  rw [← h.process] at hv' hs'
  obtain ⟨hxv, hxs⟩ := run_act_shutdown hal hx hv
  obtain ⟨hyv, hys⟩ := run_act_shutdown hal hy hv'
  obtain ⟨hxsv, hxss⟩ := run_step hal .shutdown x
  obtain ⟨hysv, hyss⟩ := run_step hal .shutdown y
  rw [hxv, hxs] at hxss
  rw [hyv, hys] at hyss
  have hleft : ((PowerSystem.step hal .shutdown).run x).state = { x with world := w' } := by
    rw [hxss, ← hs]
    rfl
  have hright : ((PowerSystem.step hal .shutdown).run y).state = { y with world := v' } := by
    rw [hyss, ← hs']
    rfl
  have halike : Alike service dir none ((PowerSystem.step hal .shutdown).run x).state
      ((PowerSystem.step hal .shutdown).run y).state := by
    rw [hleft, hright]
    exact ⟨h.sockets, h.process, h.cache, fun m hm => hpaired m (h.paired m hm), hparallel, ⟨h.providers.1, nofun⟩,
      hdir.trans h.directory⟩
  exact .of_alike (hxsv.trans hxv) (hysv.trans hyv) halike

/-- Every step comes to the same in both systems. -/
theorem Alike.step (h : Alike (PowerStats.stub hal) dir live x y) (a : PowerStep) (rest : List PowerStep)
    (horderly : PowerStep.orderly live.isSome (a :: rest) = true)
    (haddress : a = .publish → x.world.network.isAddressable powerServiceName = true) (hfits : x.StepFits hal a) :
    ∃ next, Agree (PowerStats.stub hal) dir next ((PowerSystem.step hal a).run x) ((PowerSystem.step hal a).run y) ∧
      PowerStep.orderly next rest = true := by
  cases a with
  | publish =>
    obtain ⟨hfree, hrest⟩ : (!live.isSome) = true ∧ PowerStep.orderly true rest = true := by
      simpa [PowerStep.orderly] using horderly
    obtain rfl : live = none := by simpa using hfree
    exact ⟨true, (h.publish hal (haddress rfl)).step, hrest⟩
  | shutdown =>
    refine ⟨false, ?_, horderly⟩
    cases live with
    | none => exact (h.shutdown_of_none hal).step
    | some provider => exact h.shutdown hal
  | connect => exact ⟨live.isSome, (h.connect hal).step, horderly⟩
  | ask q ids => exact ⟨live.isSome, (h.ask q ids hfits).step, horderly⟩

/-- So does every run. -/
theorem Alike.run (h : Alike (PowerStats.stub hal) dir live x y) (steps : List PowerStep)
    (haddress : .publish ∈ steps → (Network.new dir : Network σ Recipient).isAddressable powerServiceName = true)
    (horderly : PowerStep.orderly live.isSome steps = true) (hfits : x.Fits hal steps) :
    (PowerSystem.run hal steps x).answers = (PowerSystem.run hal steps y).answers ∧
      (PowerSystem.run hal steps x).system.world.backend = (PowerSystem.run hal steps y).system.world.backend := by
  induction steps generalizing live x y with
  | nil => exact ⟨rfl, h.parallel.backend⟩
  | cons a rest ih =>
    have hpublish : a = .publish → x.world.network.isAddressable powerServiceName = true := by
      rintro rfl
      have hnew := haddress List.mem_cons_self
      rw [Network.isAddressable] at hnew ⊢
      rwa [h.directory]
    obtain ⟨next, hagree, hnext⟩ := h.step a rest horderly hpublish hfits.1
    cases hv : ((PowerSystem.step hal a).run x).value with
    | none =>
      have hv' : ((PowerSystem.step hal a).run y).value = none := hagree.value ▸ hv
      rw [run_cons_of_hang hal a rest hv, run_cons_of_hang hal a rest hv']
      exact ⟨rfl, hagree.backend⟩
    | some answer =>
      have hv' : ((PowerSystem.step hal a).run y).value = some answer := hagree.value ▸ hv
      obtain ⟨providers, halike, rfl⟩ := hagree.alike (hv ▸ Option.some_ne_none answer)
      obtain ⟨hanswers, hbackends⟩ := ih halike (fun hmem => haddress (List.mem_cons_of_mem a hmem)) hnext
        (hfits.2 answer hv)
      rw [run_cons_of_value hal a rest hv, run_cons_of_value hal a rest hv']
      exact ⟨congrArg (some answer :: ·) hanswers, hbackends⟩

end Steps

/-! ## The law -/

/-- What becomes of a facade with a registry, and of an implementation that writes down what it is asked. -/
def PowerSystem.recorded (hal : PowerStats σ) (backend : σ) (dir : String) (steps : List PowerStep) (registrar : Registrar) :
    PowerRun (PowerRecord σ) :=
  run hal.recorded steps (start registrar ⟨backend, []⟩ dir)

/-- The facade does not tell the registries apart, nor does the implementation: every step returns the same, or waits forever,
with both; the implementation gets the same requests in the same order and is left in the same state. A provider is published
only while none lives, at a path that a socket can have, and no frame is too long. -/
theorem registries_law (hal : PowerStats σ) (backend : σ) (dir : String) (steps : List PowerStep)
    (haddress : .publish ∈ steps →
      (Network.new dir : Network (PowerRecord σ) Recipient).isAddressable powerServiceName = true)
    (horderly : PowerStep.orderly false steps = true)
    (hfits : (PowerSystem.start .sockets ⟨backend, []⟩ dir).Fits hal.recorded steps) :
    (PowerSystem.recorded hal backend dir steps .sockets).answers =
        (PowerSystem.recorded hal backend dir steps .process).answers ∧
      (PowerSystem.recorded hal backend dir steps .sockets).system.world.backend.requests =
        (PowerSystem.recorded hal backend dir steps .process).system.world.backend.requests ∧
      (PowerSystem.recorded hal backend dir steps .sockets).system.world.backend.backend =
        (PowerSystem.recorded hal backend dir steps .process).system.world.backend.backend := by
  have halike := Alike.start (PowerStats.stub hal.recorded) ⟨backend, []⟩ dir
  obtain ⟨hanswers, hbackends⟩ := halike.run steps haddress horderly hfits
  exact ⟨hanswers, congrArg PowerRecord.requests hbackends, congrArg PowerRecord.backend hbackends⟩

/-! ### A provider that is restarted -/

namespace Restart

/-- An implementation without sensors. -/
def blind : PowerStats Unit :=
  fun _ _ => pure (.error (.failedTransaction "no sensors"))

def steps : List PowerStep :=
  [.publish, .connect, .ask .meters [], .shutdown, .ask .meters [], .connect, .publish, .ask .meters [], .connect,
    .ask .entities []]

/-- The frames of a refusal are as short as its text. -/
theorem framesFit {q : PowerQuery} {ids : List Int32} {b : PowerRecord Unit}
    (hrequest : (Parcel.toText (HostRequest.transact q.code (q.payload ids))).utf8ByteSize ≤ Frame.sizeLimit)
    (hrefused : ((PowerStats.stub blind.recorded q.code (q.payload ids)).run b).value =
      some (.error (.failedTransaction "no sensors"))) : PowerStats.FramesFit blind.recorded q ids b := by
  refine ⟨hrequest, fun r hr => ?_⟩
  have hreply : HostReply.ofResult r = .failed "transaction failed: no sensors" := by
    rw [← Option.some.inj (hrefused.symm.trans hr)]
    rfl
  rw [hreply]
  cbv

/-- All frames of these steps fit. -/
theorem fits : (PowerSystem.start .sockets ⟨(), []⟩ "d").Fits blind.recorded steps := by
  have hmeters : ∀ b, PowerStats.FramesFit blind.recorded .meters [] b := fun _ => framesFit (by cbv) rfl
  have hentities : ∀ b, PowerStats.FramesFit blind.recorded .entities [] b := fun _ => framesFit (by cbv) rfl
  refine ⟨trivial, fun _ _ => ⟨trivial, fun _ _ => ⟨fun _ _ _ _ => hmeters _, fun _ _ => ⟨trivial, fun _ _ =>
    ⟨fun _ _ _ _ => hmeters _, fun _ _ => ⟨trivial, fun _ _ => ⟨trivial, fun _ _ =>
      ⟨fun _ _ _ _ => hmeters _, fun _ _ => ⟨trivial, fun _ _ =>
        ⟨fun _ _ _ _ => hentities _, fun _ _ => trivial⟩⟩⟩⟩⟩⟩⟩⟩⟩⟩

end Restart

/-- Across sockets as in one process the facade finds the first provider, loses it, connects to the second one only when that is
published, and each is asked once. -/
theorem provider_restarted :
    (PowerSystem.recorded Restart.blind () "d" Restart.steps .sockets).answers =
        [some (.published true), some (.connected true), some (.items .meters []), some .ended, some (.items .meters []),
          some (.connected false), some (.published true), some (.items .meters []), some (.connected true),
          some (.items .entities [])] ∧
      (PowerSystem.recorded Restart.blind () "d" Restart.steps .sockets).system.world.backend.requests =
        [⟨.meters, []⟩, ⟨.entities, []⟩] := by
  obtain ⟨hanswers, hrequests, -⟩ := registries_law Restart.blind () "d" Restart.steps (fun _ => by cbv) rfl Restart.fits
  rw [hanswers, hrequests]
  exact ⟨rfl, rfl⟩

end Switchboard
