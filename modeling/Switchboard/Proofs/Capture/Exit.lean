import Switchboard.Proofs.Capture.Shell

/-!
# Exit codes of the shell

What the exit code of a command tells of a service behind a remote object, whatever becomes of the one transaction that the
command comes to (`ShellCommand.ask`): it may be answered, be refused, be lost, fail in any other way, bring an answer that cannot
be read, or never come back. The main statement is `exit_law`.

Zero should mean that the service has carried the command out, and -1 that it has not. So it is for the commands on sessions. The
two on the flag fall short of that: they return zero as well when their transaction has failed, and nobody but a reader of the log
learns that the flag was not read or not set (`killed_store_is_not_set`).

All that is asked of the remote object is that it brings no answers but those of the service (`ShellCommand.Relayed`). The objects
of a world do so, of the same process and across sockets, dead or alive (`ShellCommand.Fronts.relayed`).
-/

namespace Switchboard

variable {σ τ : Type}

/-! ## Objects that do not answer -/

/-- An object of the same process that is dead or refuses transactions. -/
theorem World.not_answered_of_refusing {w : World σ} {n : Nat} {o : LocalObject σ Recipient} {code : UInt32} {data : Json}
    (ho : w.directory.object? n = some o) (h : ¬(o.alive = true ∧ o.failTransactions = false)) (v : Json) :
    ((transact (.process n) code data).run w).value ≠ some (.ok v) := by
  simp only [transact, Act.run_bind, Act.run_get, ho, Act.run_modify, LocalObject.answer]
  cases halive : o.alive with
  | false => simp [onBackend]
  | true =>
    cases hfail : o.failTransactions with
    | false => exact absurd ⟨halive, hfail⟩ h
    | true => simp [onBackend]

/-- An object behind a socket that is known to be dead, or whose connection is closed. -/
theorem Site.not_answered_of_closed {ρ : Type} {s : Site σ ρ} {b : Nat} {code : UInt32} {data : Json}
    (h : ∀ o, s.network.objects[b]? = some o → o.alive = true →
      ∃ k, s.network.connections[o.connection]? = some k ∧ k.closed = true) (v : Json) :
    ((transact b code data).run s).value ≠ some (.ok v) := by
  cases ho : s.network.objects[b]? with
  | none => simp [transact, Act.run_bind, ho]
  | some o =>
    cases halive : o.alive with
    | false => simp [transact, Act.run_bind, ho, halive]
    | true =>
      obtain ⟨k, hk, hclosed⟩ := h o ho halive
      cases hframe : Frame.encode (Parcel.toText (HostRequest.transact code data)) with
      | error e =>
        rw [run_transact ho halive, send, hframe]
        intro hvalue
        cases hvalue
      | ok frame =>
        rw [transact_of_closed ho hk hclosed hframe]
        intro hvalue
        cases hvalue

namespace ShellCommand

/-! ## The transaction of a command -/

/-- Lines, each with its end. -/
def textOf (lines : List String) : String :=
  String.join (lines.map (· ++ "\n"))

/-- The word for a flag. -/
def flagText (b : Bool) : String :=
  if b then "true" else "false"

/-- Whether a command is on sessions. -/
def isOnSessions : ShellCommand → Bool
  | .list _ | .destroy _ => true
  | _ => false

/-- Whether a command is on the flag. -/
def isOnFlag : ShellCommand → Bool
  | .getAllowed | .setAllowed _ => true
  | _ => false

/-- The transaction of a command, and the lines that its answer makes the shell print. A command that only says something has
none. -/
def ask (remote : Service τ) : ShellCommand → Act τ (Except ServiceError (List String))
  | .list user =>
    (·.map fun data => data.sessions.getD []) <$> remote.transact CaptureCode.listSessions.code user ResultData
  | .destroy user => (·.map fun _ => []) <$> remote.transact CaptureCode.destroySessions.code user ResultData
  | .getAllowed => (·.map fun b => [flagText b]) <$> remote.transact CaptureCode.getAllowed.code () Bool
  | .setAllowed b => (·.map fun _ => []) <$> remote.transact CaptureCode.setAllowed.code b Unit
  | .say _ => pure (.ok [])

/-- What is reported of a command on sessions. -/
def sessionsReport (timeout : Nat) : Option (Except ServiceError (List String)) → Report
  | some (.ok lines) => ⟨textOf lines, 0⟩
  | some (.error _) | none => ⟨"Timed out after " ++ timeText timeout ++ "\n", -1⟩

/-- What is printed of a command on the flag whose transaction failed. -/
def fallback : ShellCommand → List String
  | .getAllowed => [flagText false]
  | _ => []

/-- What is logged of it. -/
def failure (e : ServiceError) : ShellCommand → Record
  | .getAllowed => ⟨.error, CaptureCode.getAllowed.name ++ " failed: " ++ e.message⟩
  | _ => ⟨.error, CaptureCode.setAllowed.name ++ " failed: " ++ e.message⟩

/-- What is reported of a command on the flag. -/
def flagReport (command : ShellCommand) : Except ServiceError (List String) → Report
  | .ok lines => ⟨textOf lines, 0⟩
  | .error _ => ⟨textOf command.fallback, 0⟩

/-- What is logged of a command on the flag. -/
def flagLog (command : ShellCommand) : Except ServiceError (List String) → List Record
  | .ok _ => []
  | .error e => [command.failure e]

variable {remote : Service τ} {t : τ} {command : ShellCommand}

theorem textOf_singleton (line : String) : textOf [line] = line ++ "\n" := by
  simp [textOf, String.join]

section Reports

variable (remote t)

/-- A command on sessions is reported by the answer to its transaction. -/
theorem run_report_sessions (h : command.isOnSessions = true) (timeout : Nat) :
    (command.report (CaptureService.proxy remote) timeout).run t =
      ⟨some (sessionsReport timeout ((ask remote command).run t).value), ((ask remote command).run t).state, []⟩ := by
  cases command with
  | getAllowed | setAllowed b | say text => cases h
  | list user =>
    simp only [report, CaptureService.proxy, CaptureService.command, ask, Act.run_map, Act.run_elsewhere]
    rcases ((remote.transact CaptureCode.listSessions.code user ResultData).run t).value with _ | (e | data) <;> rfl
  | destroy user =>
    simp only [report, CaptureService.proxy, CaptureService.command, ask, Act.run_map, Act.run_elsewhere]
    rcases ((remote.transact CaptureCode.destroySessions.code user ResultData).run t).value with _ | (e | data) <;> rfl

/-- So is a command on the flag, unless the answer never comes; what failed is logged. -/
theorem run_report_flag (h : command.isOnFlag = true) (timeout : Nat) :
    (command.report (CaptureService.proxy remote) timeout).run t =
      ⟨((ask remote command).run t).value.map command.flagReport, ((ask remote command).run t).state,
        ((ask remote command).run t).log ++ ((ask remote command).run t).value.elim [] command.flagLog⟩ := by
  cases command with
  | list user | destroy user | say text => cases h
  | getAllowed =>
    simp only [report, CaptureService.proxy, ask, Act.run_map, Act.run_bind]
    rcases ((remote.transact CaptureCode.getAllowed.code () Bool).run t).value with _ | (e | b)
    · simp
    · simp [Except.map, flagReport, flagLog, fallback, failure, flagText, textOf_singleton]
    · simp [Except.map, flagReport, flagLog, flagText, textOf_singleton]
  | setAllowed b =>
    simp only [report, CaptureService.proxy, ask, Act.run_map, Act.run_bind]
    rcases ((remote.transact CaptureCode.setAllowed.code b Unit).run t).value with _ | (e | ⟨⟩)
    · simp
    · simp [Except.map, flagReport, flagLog, fallback, failure, textOf]
    · simp [Except.map, flagReport, flagLog, textOf]

end Reports

/-! ## Printing -/

/-- A report, when it is printed: if not all of it is taken, the code is another. -/
def printed (report : Report) (out err : Sink) : ShellRun :=
  ⟨if (out.write report.text).1 then report.code else -1, (out.write report.text).2, err⟩

/-- Zero stands for a report of zero that was taken whole. -/
theorem code_printed_eq_zero {report : Report} {out err : Sink} (h : (printed report out err).code = 0) :
    report.code = 0 ∧ out.write report.text = (true, (printed report out err).out) := by
  unfold printed at h ⊢
  rcases hwrite : out.write report.text with ⟨_ | _, out'⟩
  · rw [hwrite] at h
    cases h
  · rw [hwrite] at h
    exact ⟨h, rfl⟩

section Exec

variable {service : CaptureService σ} {s : σ} {timeout : Nat} {words : List String} (out err : Sink)

/-- Words that are no command are reported to the second stream. -/
theorem run_exec_of_error {e : ShellError} (hwords : ofWords words = .error e) :
    (exec service timeout words out err).run s =
      ⟨some ⟨-1, out, (err.write ("Error: " ++ e.message ++ "\n")).2⟩, s, []⟩ := by
  rw [exec, hwords]
  rfl

/-- A command that is reported is printed; the log only grows. -/
theorem run_exec_of_report (hwords : ofWords words = .ok command) {report : Report}
    (hreport : ((command.report service timeout).run s).value = some report) :
    ((exec service timeout words out err).run s).value = some (printed report out err) ∧
      ((exec service timeout words out err).run s).state = ((command.report service timeout).run s).state ∧
      ((command.report service timeout).run s).log ⊆ ((exec service timeout words out err).run s).log := by
  rw [exec, hwords]
  dsimp only
  rw [Act.run_bind_of_value hreport, printed]
  rcases out.write report.text with ⟨_ | _, out'⟩
  · exact ⟨rfl, rfl, List.subset_append_left _ _⟩
  · exact ⟨rfl, rfl, List.subset_append_left _ _⟩

/-- A command that never comes to a report never ends. -/
theorem value_exec_of_hang (hwords : ofWords words = .ok command)
    (hreport : ((command.report service timeout).run s).value = none) :
    ((exec service timeout words out err).run s).value = none := by
  rw [exec, hwords]
  dsimp only
  rw [Act.run_bind_of_hang hreport]

end Exec

section Remote

variable (remote t) (timeout : Nat) {words : List String} (out err : Sink)

/-- What is printed of a command on sessions, by the answer to its transaction. -/
theorem run_exec_sessions (hwords : ofWords words = .ok command) (h : command.isOnSessions = true) :
    ((exec (CaptureService.proxy remote) timeout words out err).run t).value =
        some (printed (sessionsReport timeout ((ask remote command).run t).value) out err) ∧
      ((exec (CaptureService.proxy remote) timeout words out err).run t).state = ((ask remote command).run t).state := by
  have hreport := run_report_sessions remote t h timeout
  obtain ⟨hvalue, hstate, -⟩ := run_exec_of_report out err hwords (congrArg Outcome.value hreport)
  rw [hreport] at hstate
  exact ⟨hvalue, hstate⟩

/-- What is printed of a command on the flag whose transaction comes back, and what is logged. -/
theorem run_exec_flag {answer : Except ServiceError (List String)} (hwords : ofWords words = .ok command)
    (h : command.isOnFlag = true) (hask : ((ask remote command).run t).value = some answer) :
    ((exec (CaptureService.proxy remote) timeout words out err).run t).value =
        some (printed (command.flagReport answer) out err) ∧
      ((exec (CaptureService.proxy remote) timeout words out err).run t).state = ((ask remote command).run t).state ∧
      command.flagLog answer ⊆ ((exec (CaptureService.proxy remote) timeout words out err).run t).log := by
  have hreport := run_report_flag remote t h timeout
  rw [hask] at hreport
  obtain ⟨hvalue, hstate, hlog⟩ := run_exec_of_report out err hwords (congrArg Outcome.value hreport)
  rw [hreport] at hstate hlog
  exact ⟨hvalue, hstate, List.Subset.trans (List.subset_append_right _ _) hlog⟩

end Remote

/-! ## What a transaction brings -/

/-- A command without a transaction only says something. -/
theorem eq_say_of_transaction_eq_none (h : command.transaction? = none) : ∃ text, command = .say text := by
  cases command with
  | say text => exact ⟨text, rfl⟩
  | list user | destroy user | getAllowed | setAllowed b => cases h

/-- The lines in the answer to the transaction of a command. -/
def readLines : ShellCommand → Json → Except ServiceError (List String)
  | .list _, v => (readParcel ResultData v).map fun data => data.sessions.getD []
  | .destroy _, v => (readParcel ResultData v).map fun _ => []
  | .getAllowed, v => (readParcel Bool v).map fun b => [flagText b]
  | .setAllowed _, v => (readParcel Unit v).map fun _ => []
  | .say _, _ => .ok []

/-- To ask is to read the lines in what the transaction of the command brings. -/
theorem ask_eq (remote : Service τ) {code : UInt32} {data : Json} (h : command.transaction? = some (code, data)) :
    ask remote command = (·.bind command.readLines) <$> remote code data := by
  cases command with
  | say text => cases h
  | list user | destroy user | getAllowed | setAllowed b =>
    cases h
    rw [ask, Service.transact_eq, ← comp_map]
    refine congrArg (· <$> remote _ _) (funext fun answer => ?_)
    cases answer <;> rfl

/-- The payload of a command survives its way across a socket. -/
theorem travels_request {code : UInt32} {data : Json} (h : command.transaction? = some (code, data)) : data.Travels 125 := by
  cases command with
  | say text => cases h
  | list user | destroy user | getAllowed | setAllowed b =>
    cases h
    exact Parcel.travels_toJson rfl (by decide) _

/-- What the stub of a store answers to the transaction of a command. -/
def answerOnStore (s : SessionStore) : ShellCommand → Json
  | .list user => Parcel.toJson (ResultData.mk (some (s.collect user)))
  | .destroy _ => Parcel.toJson (ResultData.mk none)
  | .getAllowed => Parcel.toJson s.allowed
  | .setAllowed _ | .say _ => Parcel.toJson ()

/-- The lines in that answer, and the store behind it. -/
def onStore (s : SessionStore) : ShellCommand → List String × SessionStore
  | .list user => (s.collect user, s)
  | .destroy user => ([], s.remove user)
  | .getAllowed => ([flagText s.allowed], s)
  | .setAllowed b => ([], { s with allowed := b })
  | .say _ => ([], s)

/-- What the stub of a store answers, and the store that it leaves. -/
theorem run_stub_store {code : UInt32} {data : Json} (h : command.transaction? = some (code, data)) (s : SessionStore) :
    ((SessionStore.service.stub code data).run s).value = some (.ok (command.answerOnStore s)) ∧
      ((SessionStore.service.stub code data).run s).state = (command.onStore s).2 := by
  cases command with
  | say text => cases h
  | list user =>
    cases h
    rw [CaptureService.stub_list]
    exact ⟨rfl, rfl⟩
  | destroy user =>
    cases h
    rw [CaptureService.stub_destroy]
    exact ⟨rfl, rfl⟩
  | getAllowed =>
    cases h
    exact ⟨rfl, rfl⟩
  | setAllowed b =>
    cases h
    rw [CaptureService.stub_setAllowed]
    exact ⟨rfl, rfl⟩

/-- The lines are read back from that answer. -/
theorem readLines_answerOnStore (command : ShellCommand) (s : SessionStore) :
    command.readLines (command.answerOnStore s) = .ok (command.onStore s).1 := by
  cases command with
  | list user | destroy user | getAllowed | setAllowed b =>
    rw [readLines, answerOnStore, readParcel_toJson (by decide)]
    rfl
  | say text => rfl

/-- The answer survives its way across a socket as well. -/
theorem travels_answerOnStore (command : ShellCommand) (s : SessionStore) : (command.answerOnStore s).Travels 126 := by
  cases command <;> exact Parcel.travels_toJson rfl (by decide) _

/-- The transaction of a command on the stub of a store. -/
theorem run_ask_store (command : ShellCommand) (s : SessionStore) :
    ((ask SessionStore.service.stub command).run s).value = some (.ok (command.onStore s).1) ∧
      ((ask SessionStore.service.stub command).run s).state = (command.onStore s).2 := by
  cases htransaction : command.transaction? with
  | none =>
    obtain ⟨text, rfl⟩ := eq_say_of_transaction_eq_none htransaction
    exact ⟨rfl, rfl⟩
  | some transaction =>
    obtain ⟨code, data⟩ := transaction
    obtain ⟨hvalue, hstate⟩ := run_stub_store htransaction s
    rw [ask_eq _ htransaction, Act.run_map, hvalue]
    exact ⟨congrArg some (readLines_answerOnStore command s), hstate⟩

/-! ## The service behind a remote object -/

/-- A remote object brings no answers but those of a service: a command that it brings an answer to was carried out by the
service, which gave that answer. What has become of any other command is open. -/
def Relayed (remote : Service τ) (service : Service σ) (part : τ → σ) (t : τ) : Prop :=
  ∀ command lines, ((ask remote command).run t).value = some (.ok lines) →
    ((ask service command).run (part t)).value = some (.ok lines) ∧
      part ((ask remote command).run t).state = ((ask service command).run (part t)).state

/-- A command is carried out: the answer of the store is printed whole, and the store is as the command leaves it. -/
structure Done (command : ShellCommand) (s s' : SessionStore) (out out' : Sink) : Prop where
  printed : out.write (textOf (command.onStore s).1) = (true, out')
  left : s' = (command.onStore s).2

/-- A command on the flag has failed, though its code says otherwise, and only the log tells. -/
structure Missed (command : ShellCommand) (e : ServiceError) (out out' : Sink) (log : List Record) : Prop where
  onFlag : command.isOnFlag = true
  printed : out.write (textOf command.fallback) = (true, out')
  logged : command.failure e ∈ log

variable {part : τ → SessionStore}

/-- An answer that is relayed is the store's. -/
theorem Relayed.answer_eq (h : Relayed remote SessionStore.service.stub part t) {lines : List String}
    (hask : ((ask remote command).run t).value = some (.ok lines)) :
    lines = (command.onStore (part t)).1 ∧ part ((ask remote command).run t).state = (command.onStore (part t)).2 := by
  obtain ⟨hvalue, hstate⟩ := h command lines hask
  obtain ⟨hanswer, hleft⟩ := run_ask_store command (part t)
  exact ⟨Except.ok.inj (Option.some.inj (hvalue.symm.trans hanswer)), hstate.trans hleft⟩

/-! ### From transactions -/

/-- Answers are relayed if the transactions of commands are. -/
theorem relayed_of_transactions {service : Service σ} {part : τ → σ}
    (h : ∀ (command : ShellCommand) code data v, command.transaction? = some (code, data) →
      ((remote code data).run t).value = some (.ok v) → ((service code data).run (part t)).value = some (.ok v) ∧
        part ((remote code data).run t).state = ((service code data).run (part t)).state) :
    Relayed remote service part t := by
  intro command lines hask
  cases htransaction : command.transaction? with
  | none =>
    obtain ⟨text, rfl⟩ := eq_say_of_transaction_eq_none htransaction
    exact ⟨hask, rfl⟩
  | some transaction =>
    obtain ⟨code, data⟩ := transaction
    rw [ask_eq remote htransaction, Act.run_map] at hask ⊢
    rw [ask_eq service htransaction, Act.run_map]
    rcases hvalue : ((remote code data).run t).value with _ | (e | v)
    · rw [hvalue] at hask
      cases hask
    · rw [hvalue] at hask
      cases hask
    · obtain ⟨hanswer, hstate⟩ := h command code data v htransaction hvalue
      rw [hvalue] at hask
      rw [hanswer]
      exact ⟨hask, hstate⟩

/-! ### Objects -/

/-- An object in front of the store of a world. -/
inductive Fronts (w : World SessionStore) : ObjectRef → Prop where
  /-- Of the same process: alive or dead, refusing transactions or not. -/
  | process (n : Nat) (served : ∀ o, w.directory.object? n = some o → o.service = SessionStore.service.stub) :
    Fronts w (.process n)
  /-- Connected by a socket to a live host. -/
  | connected (b : Nat) (h : w.site.Connected b SessionStore.service.stub) : Fronts w (.socket b)
  /-- Behind a socket, and known to be dead, or on a connection that is closed. -/
  | gone (b : Nat) (h : ∀ o, w.network.objects[b]? = some o → o.alive = true →
      ∃ k, w.network.connections[o.connection]? = some k ∧ k.closed = true) : Fronts w (.socket b)

/-- Such an object relays the answers of the store. -/
theorem Fronts.relayed {w : World SessionStore} {object : ObjectRef} (h : Fronts w object) :
    Relayed (World.transact object) SessionStore.service.stub (·.backend) w := by
  refine relayed_of_transactions fun command code data v htransaction hvalue => ?_
  cases h with
  | process n served =>
    cases ho : w.directory.object? n with
    | none =>
      simp only [World.transact, Act.run_bind, Act.run_get, ho] at hvalue
      cases hvalue
    | some o =>
      by_cases hanswers : o.alive = true ∧ o.failTransactions = false
      · rw [World.run_transact_process ⟨o, ho, hanswers.1, hanswers.2, served o ho⟩] at hvalue ⊢
        exact ⟨hvalue, rfl⟩
      · exact absurd hvalue (World.not_answered_of_refusing ho hanswers v)
  | connected b hconnected =>
    rw [World.run_transact_socket] at hvalue ⊢
    refine Site.answer_of_connected hconnected (travels_request htransaction)
      (fun u hu => ?_) hvalue
    obtain ⟨hanswer, -⟩ := run_stub_store htransaction w.backend
    obtain rfl := Except.ok.inj (Option.some.inj (hanswer.symm.trans hu))
    exact travels_answerOnStore command w.backend
  | gone b hgone =>
    rw [World.run_transact_socket] at hvalue
    exact absurd hvalue (Site.not_answered_of_closed hgone v)

/-- An object that reaches a store is in front of it. -/
theorem fronts_of_reaches {w : World SessionStore} {object : ObjectRef} (h : w.Reaches SessionStore.service.stub object) :
    Fronts w object := by
  cases h with
  | process n hanswers =>
    obtain ⟨o, ho, -, -, hservice⟩ := hanswers
    refine .process n fun o' ho' => ?_
    obtain rfl := Option.some.inj (ho.symm.trans ho')
    exact hservice
  | socket b hconnected => exact .connected b hconnected

/-- The store answers the transaction of a command through it, if the frames fit. -/
theorem value_ask_of_reaches {w : World SessionStore} {object : ObjectRef} (h : w.Reaches SessionStore.service.stub object)
    (command : ShellCommand) (hfits : ∀ b, object = .socket b → command.FramesFit SessionStore.service w.backend) :
    ((ask (World.transact object) command).run w).value = some (.ok (command.onStore w.backend).1) := by
  cases htransaction : command.transaction? with
  | none =>
    obtain ⟨text, rfl⟩ := eq_say_of_transaction_eq_none htransaction
    rfl
  | some transaction =>
    obtain ⟨code, data⟩ := transaction
    obtain ⟨hvalue, -⟩ := run_stub_store htransaction w.backend
    obtain ⟨hanswer, -, -⟩ := h.run_transact hvalue (travels_request htransaction) (travels_answerOnStore command w.backend)
      fun b hb => hfits b hb code data htransaction
    rw [ask_eq _ htransaction, Act.run_map, hanswer]
    exact congrArg some (readLines_answerOnStore command w.backend)

/-! ## What becomes of a command -/

section Command

variable (remote t) (timeout : Nat) {words : List String} (out err : Sink)

/-- A command that is answered prints the answer, and leaves what its transaction left. -/
theorem exec_answered (hwords : ofWords words = .ok command) (h : command.isOnSessions = true ∨ command.isOnFlag = true)
    {lines : List String} (hask : ((ask remote command).run t).value = some (.ok lines)) :
    ((exec (CaptureService.proxy remote) timeout words out err).run t).value = some (printed ⟨textOf lines, 0⟩ out err) ∧
      ((exec (CaptureService.proxy remote) timeout words out err).run t).state = ((ask remote command).run t).state := by
  rcases h with h | h
  · have hrun := run_exec_sessions remote t timeout out err hwords h
    rw [hask] at hrun
    exact hrun
  · obtain ⟨hvalue, hstate, -⟩ := run_exec_flag remote t timeout out err hwords h hask
    exact ⟨hvalue, hstate⟩

/-- A command on sessions that is not answered says that its time was over. -/
theorem exec_unanswered (hwords : ofWords words = .ok command) (h : command.isOnSessions = true)
    (hask : ∀ lines, ((ask remote command).run t).value ≠ some (.ok lines)) :
    ((exec (CaptureService.proxy remote) timeout words out err).run t).value =
      some ⟨-1, (out.write ("Timed out after " ++ timeText timeout ++ "\n")).2, err⟩ := by
  have hreport : sessionsReport timeout ((ask remote command).run t).value =
      ⟨"Timed out after " ++ timeText timeout ++ "\n", -1⟩ := by
    rcases hvalue : ((ask remote command).run t).value with _ | (e | lines)
    · rfl
    · rfl
    · exact absurd hvalue (hask lines)
  obtain ⟨hvalue, -⟩ := run_exec_sessions remote t timeout out err hwords h
  rw [hvalue, hreport, printed, ite_self]

/-- A command on the flag that fails prints what stands in for an answer, and the failure is in the log. -/
theorem exec_missed (hwords : ofWords words = .ok command) (h : command.isOnFlag = true) {e : ServiceError}
    (hask : ((ask remote command).run t).value = some (.error e)) :
    ((exec (CaptureService.proxy remote) timeout words out err).run t).value =
        some (printed ⟨textOf command.fallback, 0⟩ out err) ∧
      command.failure e ∈ ((exec (CaptureService.proxy remote) timeout words out err).run t).log := by
  obtain ⟨hvalue, -, hlog⟩ := run_exec_flag remote t timeout out err hwords h hask
  exact ⟨hvalue, hlog (List.mem_singleton_self _)⟩

/-- Words come to a command that asks, or to a failure. -/
theorem exec_cases (words : List String) :
    (∃ command, ofWords words = .ok command ∧ (command.isOnSessions = true ∨ command.isOnFlag = true)) ∨
      ∃ run, ((exec (CaptureService.proxy remote) timeout words out err).run t).value = some run ∧ run.code = -1 := by
  cases hwords : ofWords words with
  | error e =>
    rw [run_exec_of_error out err hwords]
    exact .inr ⟨_, rfl, rfl⟩
  | ok command =>
    cases command with
    | list user | destroy user => exact .inl ⟨_, rfl, .inl rfl⟩
    | getAllowed | setAllowed b => exact .inl ⟨_, rfl, .inr rfl⟩
    | say text =>
      have hreport : ((report (CaptureService.proxy remote) timeout (.say text)).run t).value = some ⟨text, -1⟩ := rfl
      obtain ⟨hvalue, -⟩ := run_exec_of_report out err hwords hreport
      exact .inr ⟨_, hvalue, ite_self _⟩

/-- Only a command on the flag can wait forever. -/
theorem exec_waits_iff :
    ((exec (CaptureService.proxy remote) timeout words out err).run t).value = none ↔
      ∃ command, ofWords words = .ok command ∧ command.isOnFlag = true ∧ ((ask remote command).run t).value = none := by
  constructor
  · intro hwaits
    obtain ⟨command, hwords, hasks⟩ | ⟨run, hrun, -⟩ := exec_cases remote t timeout out err words
    · rcases hasks with honSessions | honFlag
      · obtain ⟨hvalue, -⟩ := run_exec_sessions remote t timeout out err hwords honSessions
        cases hvalue.symm.trans hwaits
      · refine ⟨command, hwords, honFlag, ?_⟩
        cases hask : ((ask remote command).run t).value with
        | none => rfl
        | some answer =>
          obtain ⟨hvalue, -⟩ := run_exec_flag remote t timeout out err hwords honFlag hask
          cases hvalue.symm.trans hwaits
    · cases hrun.symm.trans hwaits
  · rintro ⟨command, hwords, honFlag, hask⟩
    refine value_exec_of_hang out err hwords ?_
    rw [run_report_flag remote t honFlag, hask]
    rfl

/-- Zero is the code of a command that was answered, or of one on the flag that failed. -/
theorem exec_zero {run : ShellRun} (hrun : ((exec (CaptureService.proxy remote) timeout words out err).run t).value = some run)
    (hcode : run.code = 0) :
    ∃ command, ofWords words = .ok command ∧ (command.isOnSessions = true ∨ command.isOnFlag = true) ∧
      ((∃ lines, ((ask remote command).run t).value = some (.ok lines)) ∨
        command.isOnFlag = true ∧ ∃ e, ((ask remote command).run t).value = some (.error e)) := by
  obtain ⟨command, hwords, hasks⟩ | ⟨failed, hfailed, hminus⟩ := exec_cases remote t timeout out err words
  · refine ⟨command, hwords, hasks, ?_⟩
    by_cases hanswered : ∃ lines, ((ask remote command).run t).value = some (.ok lines)
    · exact .inl hanswered
    · rcases hasks with honSessions | honFlag
      · have hvalue := exec_unanswered remote t timeout out err hwords honSessions (not_exists.mp hanswered)
        obtain rfl := Option.some.inj (hrun.symm.trans hvalue)
        cases hcode
      · rcases hask : ((ask remote command).run t).value with _ | (e | lines)
        · cases hrun.symm.trans ((exec_waits_iff remote t timeout out err).mpr ⟨command, hwords, honFlag, hask⟩)
        · exact .inr ⟨honFlag, e, rfl⟩
        · exact absurd ⟨lines, hask⟩ hanswered
  · obtain rfl := Option.some.inj (hrun.symm.trans hfailed)
    cases hminus.symm.trans hcode

end Command

/-! ## The law -/

/-- What the exit code tells of a store behind a remote object, when words are run as a command and come to `o`. -/
structure ExitLaw (remote : Service τ) (part : τ → SessionStore) (t : τ) (timeout : Nat) (words : List String) (out err : Sink)
    (o : Outcome τ ShellRun) : Prop where
  /-- Zero is the code of a command that the store has carried out. It is also, wrongly, that of one on the flag whose transaction
  has failed. -/
  zero : ∀ run, o.value = some run → run.code = 0 →
    ∃ command, ofWords words = .ok command ∧ (command.isOnSessions = true ∨ command.isOnFlag = true) ∧ run.err = err ∧
      (command.Done (part t) (part o.state) out run.out ∨
        ∃ e, ((ask remote command).run t).value = some (.error e) ∧ command.Missed e out run.out o.log)
  /-- What is answered is printed, and the code is zero if all of it is taken. An answer is always in time here: one that comes
  after the shell has given up is, to a command on sessions, none. -/
  answered : ∀ command lines, ofWords words = .ok command → (command.isOnSessions = true ∨ command.isOnFlag = true) →
    ((ask remote command).run t).value = some (.ok lines) →
    o.value = some (printed ⟨textOf lines, 0⟩ out err) ∧ lines = (command.onStore (part t)).1 ∧
      part o.state = (command.onStore (part t)).2
  /-- A command on sessions that is not answered runs out of time. -/
  unanswered : ∀ command, ofWords words = .ok command → command.isOnSessions = true →
    (∀ lines, ((ask remote command).run t).value ≠ some (.ok lines)) →
    o.value = some ⟨-1, (out.write ("Timed out after " ++ timeText timeout ++ "\n")).2, err⟩
  /-- A command on the flag that fails is logged, and reported as if the flag had been read and were not set, or as if it had been
  set: the code is zero where it should be -1. -/
  missed : ∀ command e, ofWords words = .ok command → command.isOnFlag = true →
    ((ask remote command).run t).value = some (.error e) →
    o.value = some (printed ⟨textOf command.fallback, 0⟩ out err) ∧ command.failure e ∈ o.log
  /-- Only a command on the flag can wait forever, when the answer to its transaction never comes. -/
  waits : o.value = none ↔
    ∃ command, ofWords words = .ok command ∧ command.isOnFlag = true ∧ ((ask remote command).run t).value = none

/-- The exit code of a command keeps this law, whatever is behind the remote object, as long as its answers are relayed. -/
theorem exit_law (h : Relayed remote SessionStore.service.stub part t) (timeout : Nat) (words : List String) (out err : Sink) :
    ExitLaw remote part t timeout words out err
      ((exec (CaptureService.proxy remote) timeout words out err).run t) where
  answered command lines hwords hasks hask := by
    obtain ⟨hvalue, hstate⟩ := exec_answered remote t timeout out err hwords hasks hask
    rw [hstate]
    exact ⟨hvalue, h.answer_eq hask⟩
  unanswered command hwords honSessions hask := exec_unanswered remote t timeout out err hwords honSessions hask
  missed command e hwords honFlag hask := exec_missed remote t timeout out err hwords honFlag hask
  waits := exec_waits_iff remote t timeout out err
  zero run hrun hcode := by
    obtain ⟨command, hwords, hasks, ⟨lines, hask⟩ | ⟨honFlag, e, hask⟩⟩ := exec_zero remote t timeout out err hrun hcode
    · obtain ⟨hvalue, hstate⟩ := exec_answered remote t timeout out err hwords hasks hask
      obtain ⟨rfl, hleft⟩ := h.answer_eq hask
      obtain rfl := Option.some.inj (hrun.symm.trans hvalue)
      exact ⟨command, hwords, hasks, rfl, .inl ⟨(code_printed_eq_zero hcode).2, hstate ▸ hleft⟩⟩
    · obtain ⟨hvalue, hlogged⟩ := exec_missed remote t timeout out err hwords honFlag hask
      obtain rfl := Option.some.inj (hrun.symm.trans hvalue)
      exact ⟨command, hwords, hasks, rfl, .inr ⟨e, hask, honFlag, (code_printed_eq_zero hcode).2, hlogged⟩⟩

/-! ### A store that is alive, and one that is killed -/

/-- Through a socket the flag of a live store is set, and the exit code is zero. -/
theorem reached_store_is_set :
    Relayed (World.transact (.socket 0)) SessionStore.service.stub (·.backend) Desk.world ∧
      ((exec (CaptureService.proxy (World.transact (.socket 0))) 5000000000 ["set", flagWord, "true"] Desk.out Desk.out).run
        Desk.world).value.map Desk.shown = some (0, [], []) ∧
      ((exec (CaptureService.proxy (World.transact (.socket 0))) 5000000000 ["set", flagWord, "true"] Desk.out Desk.out).run
        Desk.world).state.backend = Desk.allowing := by
  obtain ⟨hstore, hreaches⟩ := Desk.served
  have hrelayed := (fronts_of_reaches hreaches).relayed
  have hask := value_ask_of_reaches hreaches (.setAllowed true) fun _ _ => hstore.symm ▸ Desk.framesFit_set
  obtain ⟨hvalue, -, hleft⟩ :=
    (exit_law hrelayed 5000000000 ["set", flagWord, "true"] Desk.out Desk.out).answered (.setAllowed true) _ rfl (.inr rfl) hask
  refine ⟨hrelayed, ?_, ?_⟩
  · rw [hvalue]
    decide +kernel
  · rw [hleft, hstore]
    rfl

/-- The object of a store is registered in its process, and killed. -/
def Killed.world : World SessionStore :=
  ((World.onDirectory (·.register CaptureService.serviceName SessionStore.service.stub) >>= World.kill).run
    (World.new Desk.store "d")).state

/-- The flag of a killed store is not set, but the exit code is zero all the same. -/
theorem killed_store_is_not_set :
    Killed.world.isAlive (.process 0) = false ∧
      (((exec (CaptureService.proxy (World.transact (.process 0))) 5000000000 ["set", flagWord, "true"] Desk.out Desk.out).run
        Killed.world).value.map Desk.shown) = some (0, [], []) ∧
      ((exec (CaptureService.proxy (World.transact (.process 0))) 5000000000 ["set", flagWord, "true"] Desk.out Desk.out).run
        Killed.world).state.backend.allowed = false := by
  refine ⟨rfl, by decide +kernel, by decide +kernel⟩

end ShellCommand

end Switchboard
