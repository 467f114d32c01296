import Switchboard.Capture.Remote
import Switchboard.Capture.Shell
import Switchboard.Capture.Store
import Switchboard.Proofs.Parcel.Bounds
import Switchboard.Proofs.Parcel.RoundTrip
import Switchboard.Proofs.Socket.Transparency

/-!
# The shell on a remote service

A service that answers every command on the spot (`CaptureService.Prompt`), as a store of sessions does, is the same to the shell
whether it is called directly or reached through an object of the same process or of a socket (`World.Reaches`). One transaction
is the argument (`World.Reaches.run_transact`); each call of the proxy is one transaction, each command of the shell at most one
call. What an answer is coded with is lost on the way, and the shell does not look at it.

`Act.Together` says that two acts come to the same value and leave states that belong together; it passes through sequences, so
that a script of commands is followed command by command.
-/

namespace Switchboard

variable {σ τ α β : Type}

/-! ## Acts that come to the same -/

/-- From states that belong together, two acts come to the same value and to states that belong together. -/
def Act.Together (R : τ → σ → Prop) (x : Act τ α) (t : τ) (y : Act σ α) (s : σ) : Prop :=
  ∃ a, (x.run t).value = some a ∧ (y.run s).value = some a ∧ R (x.run t).state (y.run s).state

namespace Act.Together

variable {R : τ → σ → Prop} {x : Act τ α} {y : Act σ α} {t : τ} {s : σ}

/-- Acts that only give a value come to the same. -/
theorem pure (a : α) (h : R t s) : Act.Together R (Pure.pure a) t (Pure.pure a) s :=
  ⟨a, rfl, rfl, h⟩

/-- Acts that come to the same go on to the same, if what follows them does. -/
theorem bind {f : α → Act τ β} {g : α → Act σ β} (h : Act.Together R x t y s)
    (hnext : ∀ a, (y.run s).value = some a → Act.Together R (f a) (x.run t).state (g a) (y.run s).state) :
    Act.Together R (x >>= f) t (y >>= g) s := by
  obtain ⟨a, hx, hy, -⟩ := h
  obtain ⟨b, hf, hg, hR⟩ := hnext a hy
  refine ⟨b, ?_, ?_, ?_⟩
  · rw [run_bind_of_value hx]
    exact hf
  · rw [run_bind_of_value hy]
    exact hg
  · rw [run_bind_of_value hx, run_bind_of_value hy]
    exact hR

/-- Their states belong together afterwards. -/
theorem states (h : Act.Together R x t y s) : R (x.run t).state (y.run s).state := by
  obtain ⟨-, -, -, hR⟩ := h
  exact hR

/-- Their values may be put to the same use. -/
theorem map (f : α → β) (h : Act.Together R x t y s) : Act.Together R (f <$> x) t (f <$> y) s := by
  obtain ⟨a, hx, hy, hR⟩ := h
  refine ⟨f a, ?_, ?_, ?_⟩
  · rw [run_map, hx]
    rfl
  · rw [run_map, hy]
    rfl
  · rw [run_map, run_map]
    exact hR

/-- They may log the same. -/
theorem log (level : Level) (message : String) (h : R t s) :
    Act.Together R (Act.log level message) t (Act.log level message) s :=
  ⟨(), rfl, rfl, h⟩

end Act.Together

/-! ## Objects that reach a service -/

/-- The frames of a transaction and of its answer are not too long. -/
structure Service.FramesFit (service : Service σ) (code : UInt32) (data : Json) (b : σ) : Prop where
  request : (Parcel.toText (HostRequest.transact code data)).utf8ByteSize ≤ Frame.sizeLimit
  reply : ∀ r, ((service code data).run b).value = some r →
    (Parcel.toText (HostReply.ofResult r)).utf8ByteSize ≤ Frame.sizeLimit

/-- Frames fit if those of the one answer do. -/
theorem Service.FramesFit.of_value {service : Service σ} {code : UInt32} {data : Json} {b : σ} {r : Except ServiceError Json}
    (h : ((service code data).run b).value = some r)
    (hrequest : (Parcel.toText (HostRequest.transact code data)).utf8ByteSize ≤ Frame.sizeLimit)
    (hreply : (Parcel.toText (HostReply.ofResult r)).utf8ByteSize ≤ Frame.sizeLimit) : service.FramesFit code data b :=
  ⟨hrequest, fun _ hr => Option.some.inj (h.symm.trans hr) ▸ hreply⟩

namespace World

variable {w : World σ} {service : Service σ} {object : ObjectRef}

/-- A live object through which transactions reach a service: of the same process, and refusing none, or connected by a socket to
a live host. -/
inductive Reaches (w : World σ) (service : Service σ) : ObjectRef → Prop where
  | process (n : Nat) (answers : w.Answers n service) : Reaches w service (.process n)
  | socket (b : Nat) (connected : w.site.Connected b service) : Reaches w service (.socket b)

/-- A transaction that succeeds brings its answer back and leaves the object as it was; through a socket, if the frames fit. -/
theorem Reaches.run_transact (h : w.Reaches service object) {code : UInt32} {data v : Json}
    (hv : ((service code data).run w.backend).value = some (.ok v)) (hdata : data.Travels 125) (hanswer : v.Travels 126)
    (hfits : ∀ b, object = .socket b → service.FramesFit code data w.backend) :
    ((transact object code data).run w).value = some (.ok v) ∧
      ((transact object code data).run w).state.backend = ((service code data).run w.backend).state ∧
      ((transact object code data).run w).state.Reaches service object := by
  cases h with
  | process n hanswers =>
    rw [run_transact_process hanswers]
    exact ⟨hv, rfl, .process n (hanswers.after_transact _)⟩
  | socket b hconnected =>
    obtain ⟨hrequest, hreply⟩ := hfits b rfl
    have hcarried : HostReply.Carried (.ok v) := ⟨fun u hu => Except.ok.inj hu ▸ hanswer, hreply _ hv⟩
    rw [run_transact_of_connected hconnected ⟨hdata, hrequest⟩ hv hcarried]
    exact ⟨rfl, rfl, .socket b (hconnected.of_network_eq rfl)⟩

/-- So does a typed transaction; it reads its answer. -/
theorem Reaches.run_typed (h : w.Reaches service object) {code : UInt32} [Parcel α] [Parcel β] {request : α} {answer : β}
    (hv : ((service code (Parcel.toJson request)).run w.backend).value = some (.ok (Parcel.toJson answer)))
    (hdata : (Parcel.toJson request).Travels 125) (hanswer : (Parcel.toJson answer).Travels 126)
    (hfaithful : (Parcel.shape β).isFaithful = true)
    (hfits : ∀ b, object = .socket b → service.FramesFit code (Parcel.toJson request) w.backend) :
    ((Service.transact (transact object) code request β).run w).value = some (.ok answer) ∧
      ((Service.transact (transact object) code request β).run w).state.backend =
        ((service code (Parcel.toJson request)).run w.backend).state ∧
      ((Service.transact (transact object) code request β).run w).state.Reaches service object := by
  obtain ⟨hvalue, hbackend, hreaches⟩ := h.run_transact hv hdata hanswer hfits
  rw [Service.transact_eq, Act.run_map, hvalue]
  exact ⟨congrArg some (readParcel_toJson hfaithful answer), hbackend, hreaches⟩

/-- A world whose services are in a state, and an object that reaches one of them. -/
def Serves (service : Service σ) (object : ObjectRef) (w : World σ) (b : σ) : Prop :=
  w.backend = b ∧ w.Reaches service object

end World

namespace CaptureService

variable {service : CaptureService σ}

/-- A service that answers every command on the spot and never waits forever. -/
structure Prompt (service : CaptureService σ) : Prop where
  list : ∀ user b, ∃ code data, ((service.list user).run b).value = some (.answered code data)
  destroy : ∀ user b, ∃ code data, ((service.destroy user).run b).value = some (.answered code data)
  allowed : ∀ b, ∃ flag, (service.allowed.run b).value = some flag
  setAllowed : ∀ flag b, ((service.setAllowed flag).run b).value = some ()

/-- A store of sessions answers on the spot. -/
theorem prompt_store : SessionStore.service.Prompt where
  list user s := ⟨0, ⟨some (s.collect user)⟩, rfl⟩
  destroy _ _ := ⟨0, ⟨none⟩, rfl⟩
  allowed s := ⟨s.allowed, rfl⟩
  setAllowed _ _ := rfl

/-! ## The stub -/

/-- What the stub does with the four codes, each with a payload of its kind. -/
theorem stub_list (service : CaptureService σ) (user : UserId) :
    stub service CaptureCode.listSessions.code (Parcel.toJson user) = await <$> service.list user := by
  have hread : readParcel UserId (Parcel.toJson user) = .ok user := readParcel_toJson rfl user
  simp only [stub, show CaptureCode.ofCode? CaptureCode.listSessions.code = some .listSessions from rfl, hread]

theorem stub_destroy (service : CaptureService σ) (user : UserId) :
    stub service CaptureCode.destroySessions.code (Parcel.toJson user) = await <$> service.destroy user := by
  have hread : readParcel UserId (Parcel.toJson user) = .ok user := readParcel_toJson rfl user
  simp only [stub, show CaptureCode.ofCode? CaptureCode.destroySessions.code = some .destroySessions from rfl, hread]

theorem stub_allowed (service : CaptureService σ) :
    stub service CaptureCode.getAllowed.code (Parcel.toJson ()) =
      (fun flag => .ok (Parcel.toJson flag)) <$> service.allowed :=
  rfl

theorem stub_setAllowed (service : CaptureService σ) (flag : Bool) :
    stub service CaptureCode.setAllowed.code (Parcel.toJson flag) =
      (fun () => .ok (Parcel.toJson ())) <$> service.setAllowed flag := by
  have hread : readParcel Bool (Parcel.toJson flag) = .ok flag := readParcel_toJson rfl flag
  simp only [stub, show CaptureCode.ofCode? CaptureCode.setAllowed.code = some .setAllowed from rfl, hread]

/-! ## The proxy -/

section Proxy

variable {w : World σ} {object : ObjectRef}

/-- The receiver of a command gets what the service delivered. -/
theorem run_command (h : w.Reaches (stub service) object) (c : CaptureCode) (user : UserId) {code : Int32} {data : ResultData}
    {act : Act σ Delivery} (hstub : stub service c.code (Parcel.toJson user) = await <$> act)
    (hact : (act.run w.backend).value = some (.answered code data))
    (hfits : ∀ b, object = .socket b → Service.FramesFit (stub service) c.code (Parcel.toJson user) w.backend) :
    ((command (World.transact object) c user).run w).value = some (.answered 0 data) ∧
      World.Serves (stub service) object ((command (World.transact object) c user).run w).state (act.run w.backend).state := by
  have hv : ((stub service c.code (Parcel.toJson user)).run w.backend).value = some (.ok (Parcel.toJson data)) := by
    rw [hstub, Act.run_map, hact]
    rfl
  obtain ⟨hvalue, hbackend, hreaches⟩ := h.run_typed hv (Parcel.travels_toJson rfl (by decide) user)
    (Parcel.travels_toJson rfl (by decide) data) (by decide) hfits
  rw [command, Act.run_map, Act.run_elsewhere, hvalue]
  rw [hstub, Act.run_map] at hbackend
  exact ⟨rfl, hbackend, hreaches⟩

/-- The flag is that of the service. -/
theorem together_allowed (h : w.Reaches (stub service) object) (hprompt : service.Prompt)
    (hfits : ∀ b, object = .socket b →
      Service.FramesFit (stub service) CaptureCode.getAllowed.code (Parcel.toJson ()) w.backend) :
    Act.Together (World.Serves (stub service) object) (proxy (World.transact object)).allowed w service.allowed w.backend := by
  obtain ⟨flag, hflag⟩ := hprompt.allowed w.backend
  have hv : ((stub service CaptureCode.getAllowed.code (Parcel.toJson ())).run w.backend).value =
      some (.ok (Parcel.toJson flag)) := by
    rw [stub_allowed, Act.run_map, hflag]
    rfl
  obtain ⟨hvalue, hbackend, hreaches⟩ := h.run_typed hv (Parcel.travels_toJson rfl (by decide) ())
    (Parcel.travels_toJson rfl (by decide) flag) (by decide) hfits
  rw [stub_allowed, Act.run_map] at hbackend
  refine ⟨flag, ?_, hflag, ?_⟩
  · simp only [proxy]
    rw [Act.run_bind_of_value hvalue]
    rfl
  · simp only [proxy]
    rw [Act.run_bind_of_value hvalue]
    exact ⟨hbackend, hreaches⟩

/-- The flag is set in the service. -/
theorem together_setAllowed (h : w.Reaches (stub service) object) (hprompt : service.Prompt) (flag : Bool)
    (hfits : ∀ b, object = .socket b →
      Service.FramesFit (stub service) CaptureCode.setAllowed.code (Parcel.toJson flag) w.backend) :
    Act.Together (World.Serves (stub service) object) ((proxy (World.transact object)).setAllowed flag) w
      (service.setAllowed flag) w.backend := by
  have hdone := hprompt.setAllowed flag w.backend
  have hv : ((stub service CaptureCode.setAllowed.code (Parcel.toJson flag)).run w.backend).value =
      some (.ok (Parcel.toJson ())) := by
    rw [stub_setAllowed, Act.run_map, hdone]
    rfl
  obtain ⟨hvalue, hbackend, hreaches⟩ := h.run_typed hv (Parcel.travels_toJson rfl (by decide) flag)
    (Parcel.travels_toJson rfl (by decide) ()) (by decide) hfits
  rw [stub_setAllowed, Act.run_map] at hbackend
  refine ⟨(), ?_, hdone, ?_⟩
  · simp only [proxy]
    rw [Act.run_bind_of_value hvalue]
    rfl
  · simp only [proxy]
    rw [Act.run_bind_of_value hvalue]
    exact ⟨hbackend, hreaches⟩

end Proxy

end CaptureService

/-! ## Commands -/

namespace ShellCommand

/-- The transaction that a command comes to. -/
def transaction? : ShellCommand → Option (UInt32 × Json)
  | .list user => some (CaptureCode.listSessions.code, Parcel.toJson user)
  | .destroy user => some (CaptureCode.destroySessions.code, Parcel.toJson user)
  | .getAllowed => some (CaptureCode.getAllowed.code, Parcel.toJson ())
  | .setAllowed flag => some (CaptureCode.setAllowed.code, Parcel.toJson flag)
  | .say _ => none

/-- The frames of a command are not too long. -/
def FramesFit (service : CaptureService σ) (b : σ) (command : ShellCommand) : Prop :=
  ∀ code data, command.transaction? = some (code, data) → Service.FramesFit service.stub code data b

section Command

variable {service : CaptureService σ} {w : World σ} {object : ObjectRef}

/-- What is delivered is reported without its code. -/
theorem together_sessions (timeout : Nat) (lines : ResultData → List String) {x : Act (World σ) Delivery} {y : Act σ Delivery}
    {code : Int32} {data : ResultData} (hx : (x.run w).value = some (.answered 0 data))
    (hy : (y.run w.backend).value = some (.answered code data))
    (hserves : World.Serves service.stub object (x.run w).state (y.run w.backend).state) :
    Act.Together (World.Serves service.stub object) (reportDelivery timeout lines <$> x) w
      (reportDelivery timeout lines <$> y) w.backend := by
  refine ⟨reportDelivery timeout lines (.answered 0 data), ?_, ?_, ?_⟩
  · rw [Act.run_map, hx]
    rfl
  · rw [Act.run_map, hy]
    rfl
  · rw [Act.run_map, Act.run_map]
    exact hserves

/-- A command is reported alike, whether the service is called or reached. -/
theorem together_report (h : w.Reaches service.stub object) (hprompt : service.Prompt) (timeout : Nat)
    (command : ShellCommand) (hfits : ∀ b, object = .socket b → command.FramesFit service w.backend) :
    Act.Together (World.Serves service.stub object) (command.report (CaptureService.proxy (World.transact object)) timeout) w
      (command.report service timeout) w.backend := by
  cases command with
  | list user =>
    obtain ⟨code, data, hlist⟩ := hprompt.list user w.backend
    obtain ⟨hvalue, hserves⟩ := CaptureService.run_command h .listSessions user (CaptureService.stub_list service user) hlist
      fun b hb => hfits b hb _ _ rfl
    exact together_sessions timeout _ hvalue hlist hserves
  | destroy user =>
    obtain ⟨code, data, hdestroy⟩ := hprompt.destroy user w.backend
    obtain ⟨hvalue, hserves⟩ := CaptureService.run_command h .destroySessions user (CaptureService.stub_destroy service user)
      hdestroy fun b hb => hfits b hb _ _ rfl
    exact together_sessions timeout _ hvalue hdestroy hserves
  | getAllowed => exact (CaptureService.together_allowed h hprompt fun b hb => hfits b hb _ _ rfl).map _
  | setAllowed flag => exact (CaptureService.together_setAllowed h hprompt flag fun b hb => hfits b hb _ _ rfl).map _
  | say text => exact .pure _ ⟨rfl, h⟩

/-- So is it run on two streams. -/
theorem together_exec (h : w.Reaches service.stub object) (hprompt : service.Prompt) (timeout : Nat) (words : List String)
    (out err : Sink) (hfits : ∀ b, object = .socket b → ∀ command, ofWords words = .ok command →
      command.FramesFit service w.backend) :
    Act.Together (World.Serves service.stub object)
      (exec (CaptureService.proxy (World.transact object)) timeout words out err) w
      (exec service timeout words out err) w.backend := by
  rw [exec, exec]
  cases hwords : ofWords words with
  | error e => exact .pure _ ⟨rfl, h⟩
  | ok command =>
    have hreport := together_report h hprompt timeout command fun b hb => hfits b hb command hwords
    refine hreport.bind fun report _ => ?_
    rcases out.write report.text with ⟨_ | _, out⟩
    · exact (Act.Together.log _ _ hreport.states).bind fun () _ => .pure _ hreport.states
    · exact .pure _ hreport.states

end Command

/-! ## Scripts -/

/-- Runs one command after the other; each writes on where the one before it stopped. -/
def execAll (service : CaptureService σ) (timeout : Nat) : List (List String) → Sink → Sink → Act σ (List ShellRun)
  | [], _, _ => pure []
  | words :: rest, out, err => do
    let run ← exec service timeout words out err
    let runs ← execAll service timeout rest run.out run.err
    pure (run :: runs)

/-- No frame of a script is too long. -/
def Fits (service : CaptureService σ) (timeout : Nat) : List (List String) → Sink → Sink → σ → Prop
  | [], _, _, _ => True
  | words :: rest, out, err, b =>
    (∀ command, ofWords words = .ok command → command.FramesFit service b) ∧
      ∀ run, ((exec service timeout words out err).run b).value = some run →
        Fits service timeout rest run.out run.err ((exec service timeout words out err).run b).state

/-- A script comes to the same, whether the service is called or reached. -/
theorem together_execAll {service : CaptureService σ} {w : World σ} {object : ObjectRef} (h : w.Reaches service.stub object)
    (hprompt : service.Prompt) (timeout : Nat) (commands : List (List String)) (out err : Sink)
    (hfits : ∀ b, object = .socket b → Fits service timeout commands out err w.backend) :
    Act.Together (World.Serves service.stub object)
      (execAll (CaptureService.proxy (World.transact object)) timeout commands out err) w
      (execAll service timeout commands out err) w.backend := by
  induction commands generalizing w out err with
  | nil => exact .pure _ ⟨rfl, h⟩
  | cons words rest ih =>
    have hexec := together_exec h hprompt timeout words out err fun b hb => (hfits b hb).1
    refine hexec.bind fun run hrun => ?_
    obtain ⟨hbackend, hreaches⟩ := hexec.states
    rw [← hbackend]
    have hrest := ih hreaches run.out run.err fun b hb => hbackend.symm ▸ (hfits b hb).2 run hrun
    exact hrest.bind fun runs _ => .pure _ hrest.states

/-- Every command of a script is run. -/
theorem length_of_execAll {service : CaptureService σ} {timeout : Nat} {commands : List (List String)}
    {out err : Sink} {b : σ} {runs : List ShellRun}
    (h : ((execAll service timeout commands out err).run b).value = some runs) : runs.length = commands.length := by
  induction commands generalizing out err b runs with
  | nil =>
    obtain rfl := Option.some.inj h
    rfl
  | cons words rest ih =>
    rw [execAll, Act.run_bind] at h
    cases hrun : ((exec service timeout words out err).run b).value with
    | none => rw [hrun] at h; cases h
    | some run =>
      rw [hrun] at h
      dsimp only at h
      rw [Act.run_bind] at h
      cases hruns : ((execAll service timeout rest run.out run.err).run ((exec service timeout words out err).run b).state).value with
      | none => rw [hruns] at h; cases h
      | some others =>
        rw [hruns] at h
        obtain rfl := Option.some.inj h
        rw [List.length_cons, List.length_cons, ih hruns]

/-! ## The law -/

/-- The shell does not tell a store of sessions from an object that reaches it: of every script each command is run, with the
same exit code and the same output on both streams, and the store is left in the same state. The object still reaches it.
Through a socket no frame is too long. -/
theorem remote_law (w : World SessionStore) (object : ObjectRef) (timeout : Nat) (commands : List (List String)) (out err : Sink)
    (hobject : w.Reaches SessionStore.service.stub object)
    (hfits : ∀ b, object = .socket b → Fits SessionStore.service timeout commands out err w.backend) :
    ∃ runs : List ShellRun,
      ((execAll (CaptureService.proxy (World.transact object)) timeout commands out err).run w).value = some runs ∧
        ((execAll SessionStore.service timeout commands out err).run w.backend).value = some runs ∧
        runs.length = commands.length ∧
        ((execAll (CaptureService.proxy (World.transact object)) timeout commands out err).run w).state.backend =
          ((execAll SessionStore.service timeout commands out err).run w.backend).state ∧
        ((execAll (CaptureService.proxy (World.transact object)) timeout commands out err).run w).state.Reaches
          SessionStore.service.stub object := by
  obtain ⟨runs, hremote, hlocal, hbackend, hreaches⟩ :=
    together_execAll hobject CaptureService.prompt_store timeout commands out err hfits
  exact ⟨runs, hremote, hlocal, length_of_execAll hlocal, hbackend, hreaches⟩

/-! ### A script through a socket -/

namespace Desk

/-- A store with a session of a user. -/
def store : SessionStore :=
  (SessionStore.new ⟨0⟩).add ⟨10⟩ "s10"

/-- The store is published. -/
def published : Site SessionStore Recipient :=
  ((Site.publish "a" SessionStore.service.stub).run (Site.new store "d")).state

/-- A client with an object across a socket. -/
def world : World SessionStore :=
  (World.new store "d").withSite ((Site.lookup "a").run published).state

def commands : List (List String) :=
  [["set", "bind-instant-service-allowed", "True"], ["destroy", "sessions", "--user", "x"], ["list", "sessions"]]

def out : Sink :=
  ⟨none, []⟩

theorem published_eq : published =
    ⟨store, "d", true, [("a", .socket (.host 0))], [⟨"a", SessionStore.service.stub, true⟩], [], [], []⟩ := by
  rw [published]
  cbv

/-- The object that the client has found reaches the store. -/
theorem served : World.Serves SessionStore.service.stub (.socket 0) world store := by
  have hlistener : published.network.listener? "a" = some 0 := by
    rw [published_eq]
    cbv
  have hhost : published.network.hosts[0]? = some ⟨"a", SessionStore.service.stub, true⟩ := by
    rw [published_eq]
    rfl
  have hobjects : published.network.objects.length = 0 := by
    rw [published_eq]
    rfl
  obtain ⟨-, hconnected, hbackend⟩ := Site.connected_lookup hlistener hhost
  rw [hobjects] at hconnected
  exact ⟨hbackend.trans (congrArg Site.backend published_eq), .socket 0 hconnected⟩

/-- The store when the flag is set. -/
def allowing : SessionStore :=
  { store with allowed := true }

/-- The frames of the first command fit. -/
theorem framesFit_set : (ShellCommand.setAllowed true).FramesFit SessionStore.service store := by
  rintro code data ⟨⟩
  refine .of_value (r := .ok (Parcel.toJson ())) ?_ (by cbv) (by cbv)
  rw [CaptureService.stub_setAllowed]
  rfl

/-- So do those of the last command. -/
theorem framesFit_list : (ShellCommand.list .all).FramesFit SessionStore.service allowing := by
  rintro code data ⟨⟩
  refine .of_value (r := .ok (Parcel.toJson (ResultData.mk (some ["s10"])))) ?_ (by cbv) (by cbv)
  rw [CaptureService.stub_list]
  rfl

/-- All frames of the script fit; its second command makes no transaction. -/
theorem fits : Fits SessionStore.service 0 commands out out store := by
  have hset : ((exec SessionStore.service 0 ["set", "bind-instant-service-allowed", "True"] out out).run store).state =
      allowing := by decide +kernel
  have hbad : ∀ out err, (exec SessionStore.service 0 ["destroy", "sessions", "--user", "x"] out err).run allowing =
      ⟨some ⟨-1, out, (err.write "Error: Bad user number: x\n").2⟩, allowing, []⟩ := by
    intro out err
    rw [exec, show ofWords ["destroy", "sessions", "--user", "x"] = .error (.badUser ⟨"x", .invalidDigit⟩) by decide +kernel]
    rfl
  refine ⟨fun command hcommand => ?_, fun run _ => ?_⟩
  · obtain rfl := Except.ok.inj ((show ofWords _ = .ok (.setAllowed true) by decide +kernel).symm.trans hcommand)
    exact framesFit_set
  rw [hset]
  refine ⟨fun command hcommand => ?_, fun run _ => ?_⟩
  · exact nomatch (show ofWords _ = .error (.badUser ⟨"x", .invalidDigit⟩) by decide +kernel).symm.trans hcommand
  rw [hbad]
  refine ⟨fun command hcommand => ?_, fun run _ => trivial⟩
  obtain rfl := Except.ok.inj ((show ofWords _ = .ok (.list .all) from rfl).symm.trans hcommand)
  exact framesFit_list

/-- What a reader sees of a run: the exit code and what was written to the two streams. -/
def shown (run : ShellRun) : Int32 × List UInt8 × List UInt8 :=
  (run.code, run.out.written, run.err.written)

end Desk

/-- Through a socket the flag is set, the bad user is reported, and the session is listed. -/
theorem desk_script :
    ((execAll (CaptureService.proxy (World.transact (.socket 0))) 0 Desk.commands Desk.out Desk.out).run
          Desk.world).value.map (List.map Desk.shown) =
        some [(0, [], []), (-1, [], bytesOf "Error: Bad user number: x\n"),
          (0, bytesOf "s10\n", bytesOf "Error: Bad user number: x\n")] ∧
      ((execAll (CaptureService.proxy (World.transact (.socket 0))) 0 Desk.commands Desk.out Desk.out).run
        Desk.world).state.backend = Desk.allowing := by
  obtain ⟨hstore, hreaches⟩ := Desk.served
  obtain ⟨runs, hremote, hlocal, -, hbackend, -⟩ := remote_law Desk.world (.socket 0) 0 Desk.commands Desk.out Desk.out
    hreaches fun _ _ => hstore.symm ▸ Desk.fits
  rw [hstore] at hlocal hbackend
  rw [hbackend, hremote, ← hlocal]
  exact ⟨by decide +kernel, by decide +kernel⟩

end ShellCommand

end Switchboard
