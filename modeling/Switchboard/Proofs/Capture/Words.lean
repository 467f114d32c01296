import Switchboard.Proofs.Capture.Exit
import Switchboard.Proofs.Text.LowerCase

/-!
# What words ask for

The words of a command either ask for one call of the service (`ShellCommand.Asks`) or are refused with one message
(`ShellCommand.Refused`), and never both. `words_law` says what running them comes to: in the first case this call is made, once,
and what it brings is printed; in the second case no call is made, nothing changes, and the message is all that is printed.

Words that are passed over are no reason for a refusal. So of the commands on sessions those that stand whole in the help text are
not the only ones that are carried out (`session_words_law`), and a restriction that is misspelt is none
(`misspelt_restriction_destroys_all`).
-/

namespace Switchboard

variable {σ : Type}

/-! ## Streams that take what is written -/

namespace ShellCommand.Sink

variable {s : Sink} {text : String}

/-- The stream takes a text whole. -/
def Takes (s : Sink) (text : String) : Prop :=
  ∀ limit, s.limit = some limit → s.written.length + text.utf8ByteSize ≤ limit

/-- The stream after it took a text. -/
def put (text : String) (s : Sink) : Sink :=
  { s with written := s.written ++ bytesOf text }

/-- A stream that takes the whole text has it behind what was written before. -/
theorem write_of_takes (h : s.Takes text) : s.write text = (true, s.put text) := by
  rw [write]
  dsimp only
  split
  · rfl
  · rename_i limit hlimit
    have hroom : (bytesOf text).length ≤ limit - s.written.length := by
      have hfits := h limit hlimit
      rw [length_bytesOf]
      omega
    change (decide ((bytesOf text).length ≤ limit - s.written.length),
      { s with written := s.written ++ (bytesOf text).take (limit - s.written.length) }) = _
    rw [decide_eq_true hroom, List.take_of_length_le hroom, put]

end ShellCommand.Sink

/-! ## Calls of the service -/

namespace CaptureCall

/-- The command of the shell that makes a call. -/
def command : CaptureCall → ShellCommand
  | .list user => .list user
  | .destroy user => .destroy user
  | .getAllowed => .getAllowed
  | .setAllowed b => .setAllowed b

/-- What is printed of a command on sessions, and its code: the lines of the answer, or that there was none in time. -/
def delivered (timeout : Nat) (lines : ResultData → List String) : Delivery → String × Int32
  | .answered _ data => (ShellCommand.textOf (lines data), 0)
  | .dropped | .kept => ("Timed out after " ++ ShellCommand.timeText timeout ++ "\n", -1)

/-- Makes a call; the value is what is printed of it, and its code. -/
def perform (service : CaptureService σ) (timeout : Nat) : CaptureCall → Act σ (String × Int32)
  | .list user => delivered timeout (fun data => data.sessions.getD []) <$> service.list user
  | .destroy user => delivered timeout (fun _ => []) <$> service.destroy user
  | .getAllowed => (fun b => (ShellCommand.flagText b ++ "\n", 0)) <$> service.allowed
  | .setAllowed b => (fun () => ("", 0)) <$> service.setAllowed b

/-- The code is zero, unless there was no answer to a command on sessions in time. -/
theorem code_of_performed {service : CaptureService σ} {timeout : Nat} {call : CaptureCall} {s : σ} {text : String} {code : Int32}
    (h : ((call.perform service timeout).run s).value = some (text, code)) :
    code = 0 ∨ code = -1 ∧ text = "Timed out after " ++ ShellCommand.timeText timeout ++ "\n" ∧
      ∃ user, (call = .list user ∧ ∀ answer data, ((service.list user).run s).value ≠ some (.answered answer data)) ∨
        (call = .destroy user ∧ ∀ answer data, ((service.destroy user).run s).value ≠ some (.answered answer data)) := by
  have hdelivered : ∀ (lines : ResultData → List String) (value : Option Delivery),
      value.map (delivered timeout lines) = some (text, code) →
      code = 0 ∨ code = -1 ∧ text = "Timed out after " ++ ShellCommand.timeText timeout ++ "\n" ∧
        ∀ answer data, value ≠ some (.answered answer data) := by
    rintro lines (_ | delivery) hvalue
    · cases hvalue
    · cases delivery with
      | answered answer data => cases hvalue; exact .inl rfl
      | dropped | kept => cases hvalue; exact .inr ⟨rfl, rfl, by simp⟩
  cases call with
  | list user =>
    rw [perform, Act.run_map] at h
    exact (hdelivered _ _ h).imp_right fun ⟨hcode, htext, hanswer⟩ => ⟨hcode, htext, user, .inl ⟨rfl, hanswer⟩⟩
  | destroy user =>
    rw [perform, Act.run_map] at h
    exact (hdelivered _ _ h).imp_right fun ⟨hcode, htext, hanswer⟩ => ⟨hcode, htext, user, .inr ⟨rfl, hanswer⟩⟩
  | getAllowed =>
    rw [perform, Act.run_map] at h
    obtain ⟨b, -, hb⟩ := Option.map_eq_some_iff.mp h
    exact .inl (congrArg Prod.snd hb).symm
  | setAllowed b =>
    rw [perform, Act.run_map] at h
    obtain ⟨-, -, hb⟩ := Option.map_eq_some_iff.mp h
    exact .inl (congrArg Prod.snd hb).symm

/-- The command of a call reports what the call brought. -/
theorem report_command (service : CaptureService σ) (timeout : Nat) (call : CaptureCall) :
    call.command.report service timeout = (fun brought => ⟨brought.1, brought.2⟩) <$> call.perform service timeout := by
  have hdelivered : ∀ (lines : ResultData → List String) (x : Act σ Delivery),
      ShellCommand.reportDelivery timeout lines <$> x =
        (fun brought => ⟨brought.1, brought.2⟩) <$> delivered timeout lines <$> x := by
    intro lines x
    rw [← comp_map]
    refine congrArg (· <$> x) (funext fun delivery => ?_)
    cases delivery <;> rfl
  cases call with
  | list user => exact hdelivered _ (service.list user)
  | destroy user => exact hdelivered _ (service.destroy user)
  | getAllowed => exact (comp_map _ _ service.allowed).symm ▸ rfl
  | setAllowed b => exact (comp_map _ _ (service.setAllowed b)).symm ▸ rfl

/-- Different calls come from different commands. -/
theorem command_injective {call other : CaptureCall} (h : call.command = other.command) : call = other := by
  cases call <;> cases other <;> cases h <;> rfl

end CaptureCall

/-- Makes a note of a call before it is made. -/
def CaptureCall.note {α : Type} (call : CaptureCall) (x : Act σ α) : Act (σ × List CaptureCall) α := do
  Act.modify fun noted => (noted.1, noted.2 ++ [call])
  Act.within Prod.fst (fun s noted => (s, noted.2)) x

/-- The service that makes a note of every call, and is otherwise the same. -/
def CaptureService.noted (service : CaptureService σ) : CaptureService (σ × List CaptureCall) where
  list user := CaptureCall.note (.list user) (service.list user)
  destroy user := CaptureCall.note (.destroy user) (service.destroy user)
  allowed := CaptureCall.note .getAllowed service.allowed
  setAllowed b := CaptureCall.note (.setAllowed b) (service.setAllowed b)

/-- The noted service does what the service does, and keeps the call. -/
theorem CaptureCall.run_perform_noted (service : CaptureService σ) (timeout : Nat) (call : CaptureCall) (s : σ)
    (calls : List CaptureCall) :
    (call.perform service.noted timeout).run (s, calls) =
      ⟨((call.perform service timeout).run s).value, (((call.perform service timeout).run s).state, calls ++ [call]),
        ((call.perform service timeout).run s).log⟩ := by
  cases call <;> simp [perform, CaptureService.noted, note, Act.run_bind]

/-- The message on a word that names no user quotes the word. -/
theorem UserId.text_of_ofText_error {word : String} {e : BadUserNumber} (h : UserId.ofText word = .error e) :
    e.text = word := by
  unfold UserId.ofText at h
  split at h
  · cases h
  · split at h
    · cases h
    · split at h
      · cases h
      · cases h
        rfl

namespace ShellCommand

/-! ## Words that ask for a call -/

/-- A word is a mode, whether in small letters or in capitals of ASCII. -/
def IsMode (mode : String) (b : Bool) : Prop :=
  mode.toList.map Char.toLower = (flagText b).toList

/-- The user whose sessions are meant by the words after `sessions`: the one who is named behind `--user`, and everyone if there
are no words, or another one is the first. -/
inductive Selects : List String → UserId → Prop where
  | everyone : Selects [] .all
  | passedOver {word : String} (more : List String) (h : word ≠ "--user") : Selects (word :: more) .all
  | named {word : String} {user : UserId} (more : List String) (h : UserId.ofText word = .ok user) :
    Selects ("--user" :: word :: more) user

/-- The verbs of commands on sessions. -/
inductive SessionVerb : String → (UserId → CaptureCall) → Prop where
  | list : SessionVerb "list" .list
  | destroy : SessionVerb "destroy" .destroy

/-- The verbs on sessions are two. -/
theorem SessionVerb.mem {verb : String} {request : UserId → CaptureCall} (h : SessionVerb verb request) :
    verb ∈ ["list", "destroy"] := by
  cases h with
  | list => exact List.mem_cons_self
  | destroy => exact List.mem_cons_of_mem _ List.mem_cons_self

/-- The words ask for a call. -/
inductive Asks : List String → CaptureCall → Prop where
  | sessions {verb : String} {request : UserId → CaptureCall} {words : List String} {user : UserId}
    (hverb : SessionVerb verb request) (h : Selects words user) : Asks (verb :: "sessions" :: words) (request user)
  | get (more : List String) : Asks ("get" :: flagWord :: more) .getAllowed
  | set {mode : String} {b : Bool} (more : List String) (h : IsMode mode b) :
    Asks ("set" :: flagWord :: mode :: more) (.setAllowed b)

/-! ## Words that are refused -/

/-- A message, on one of the two streams. -/
inductive Message where
  | out (text : String)
  | err (text : String)
deriving DecidableEq

namespace Message

/-- The stream of the message takes it. -/
def Fits (out err : Sink) : Message → Prop
  | .out text => out.Takes text
  | .err text => err.Takes text

/-- What a command comes to of which a message is all that is printed. -/
def printed (out err : Sink) : Message → ShellRun
  | .out text => ⟨-1, out.put text, err⟩
  | .err text => ⟨-1, out, err.put text⟩

/-- The message of words that are refused, by what is made of the words. -/
def of? : Except ShellError ShellCommand → Option Message
  | .error e => some (.err ("Error: " ++ e.message ++ "\n"))
  | .ok (.say text) => some (.out text)
  | .ok _ => none

/-- A message is that of an error, or a text that is said. -/
theorem of?_eq_some {made : Except ShellError ShellCommand} {message : Message} (h : of? made = some message) :
    (∃ e, made = .error e ∧ message = .err ("Error: " ++ e.message ++ "\n")) ∨
      ∃ text, made = .ok (.say text) ∧ message = .out text := by
  cases made with
  | error e => exact .inl ⟨e, rfl, (Option.some.inj h).symm⟩
  | ok command =>
    cases command with
    | list user | destroy user | getAllowed | setAllowed b => cases h
    | say text => exact .inr ⟨text, rfl, (Option.some.inj h).symm⟩

end Message

/-- The words end where another one is needed. -/
inductive Lacks : List String → Prop where
  | verb {verb : String} (h : verb ∈ ["list", "destroy", "get", "set"]) : Lacks [verb]
  | mode : Lacks ["set", flagWord]
  | user {verb : String} (h : verb ∈ ["list", "destroy"]) : Lacks [verb, "sessions", "--user"]

/-- The words are refused, with a message. -/
inductive Refused : List String → Message → Prop where
  | nothing : Refused [] (.out help)
  | help {word : String} (more : List String) (h : word ∈ ["help", "-h"]) : Refused (word :: more) (.out help)
  | unknown {verb : String} (more : List String) (h : verb ∉ ["help", "-h", "list", "destroy", "get", "set"]) :
    Refused (verb :: more) (.out ("Unknown command: " ++ verb ++ "\n"))
  | missing {words : List String} {last : String} (h : Lacks words) (hlast : words.getLast? = some last) :
    Refused words (.err ("Error: Argument expected after \"" ++ last ++ "\"\n"))
  | noSessions {verb what : String} (more : List String) (hverb : verb ∈ ["list", "destroy"]) (h : what ≠ "sessions") :
    Refused (verb :: what :: more) (.out "Error: invalid list type\n")
  | badUser {verb word : String} {e : BadUserNumber} (more : List String) (hverb : verb ∈ ["list", "destroy"])
    (h : UserId.ofText word = .error e) :
    Refused (verb :: "sessions" :: "--user" :: word :: more) (.err ("Error: Bad user number: " ++ word ++ "\n"))
  | noFlag {verb what : String} (more : List String) (hverb : verb ∈ ["get", "set"]) (h : what ≠ flagWord) :
    Refused (verb :: what :: more) (.out ("Invalid set: " ++ what ++ "\n"))
  | badMode {mode : String} (more : List String) (h : ∀ b, ¬IsMode mode b) :
    Refused ("set" :: flagWord :: mode :: more) (.out ("Invalid mode: " ++ mode ++ "\n"))

/-! ## What is made of words -/

/-- A text is a mode if it is the word for the flag in lower case. -/
theorem lowerText_eq_flagText {mode : String} {b : Bool} : lowerText mode = flagText b ↔ IsMode mode b := by
  have hplain : (flagText b).toList.all (fun c => decide (IsPlainLetter c)) = true := by cases b <;> rfl
  exact lowerText_eq_iff fun c hc => of_decide_eq_true (List.all_eq_true.mp hplain c hc)

/-- The modes are found, and nothing else is. -/
theorem modeOfWord?_eq_some {mode : String} {b : Bool} : modeOfWord? mode = some b ↔ IsMode mode b := by
  have hmode : modeOfWord? mode = if lowerText mode = flagText true then some true
      else if lowerText mode = flagText false then some false else none := rfl
  have hne : flagText true ≠ flagText false := by decide +kernel
  rw [hmode, ← lowerText_eq_flagText]
  cases b with
  | true =>
    by_cases htrue : lowerText mode = flagText true
    · simp [htrue]
    · simp [htrue, ite_eq_iff]
  | false =>
    by_cases htrue : lowerText mode = flagText true
    · simp [htrue, hne]
    · simp [htrue]

/-- Words that select a user are read as that user. -/
theorem userOfWords_of_selects {words : List String} {user : UserId} (h : Selects words user) :
    userOfWords words = .ok user := by
  cases h with
  | everyone => rfl
  | passedOver more h =>
    refine userOfWords.eq_3 _ ?_ ?_
    · rintro ⟨⟩
      exact h rfl
    · rintro _ _ ⟨⟩
      exact h rfl
  | named more h => rw [userOfWords.eq_2, h, Except.mapError]

/-- Words that ask for a call are made into its command. -/
theorem ofWords_of_asks {words : List String} {call : CaptureCall} (h : Asks words call) : ofWords words = .ok call.command := by
  cases h with
  | sessions hverb h =>
    cases hverb with
    | list => rw [ofWords.eq_4, sessionsOfWords.eq_2, userOfWords_of_selects h]; rfl
    | destroy => rw [ofWords.eq_5, sessionsOfWords.eq_2, userOfWords_of_selects h]; rfl
  | get more => rw [ofWords.eq_7, if_pos rfl]; rfl
  | set more h => rw [ofWords.eq_10, if_pos rfl, modeOfWord?_eq_some.mpr h]; rfl

/-- Words that are refused are made into their message. -/
theorem of?_ofWords_of_refused {words : List String} {message : Message} (h : Refused words message) :
    Message.of? (ofWords words) = some message := by
  cases h with
  | nothing => rfl
  | help more h =>
    rcases List.mem_pair.mp h with rfl | rfl
    · rfl
    · rfl
  | unknown more h =>
    simp only [List.mem_cons, List.not_mem_nil, or_false, not_or] at h
    obtain ⟨hhelp, hdash, hlist, hdestroy, hget, hset⟩ := h
    rw [ofWords.eq_11 _ _ hhelp hdash hlist hdestroy (fun h _ => hget h) (fun _ _ h _ => hget h) (fun h _ => hset h)
      (fun _ _ h _ => hset h)]
    rfl
  | missing h hlast =>
    cases h with
    | verb h =>
      cases hlast
      simp only [List.mem_cons, List.not_mem_nil, or_false] at h
      rcases h with rfl | rfl | rfl | rfl <;> rfl
    | mode => cases hlast; rfl
    | user h =>
      cases hlast
      rcases List.mem_pair.mp h with rfl | rfl <;> rfl
  | noSessions more hverb h =>
    rcases List.mem_pair.mp hverb with rfl | rfl
    · rw [ofWords.eq_4, sessionsOfWords.eq_3 _ _ _ _ h]
      rfl
    · rw [ofWords.eq_5, sessionsOfWords.eq_3 _ _ _ _ h]
      rfl
  | @badUser verb word e more hverb h =>
    have htext := UserId.text_of_ofText_error h
    rcases List.mem_pair.mp hverb with rfl | rfl
    · rw [ofWords.eq_4, sessionsOfWords.eq_2, userOfWords.eq_2, h, ← htext]
      rfl
    · rw [ofWords.eq_5, sessionsOfWords.eq_2, userOfWords.eq_2, h, ← htext]
      rfl
  | noFlag more hverb h =>
    rcases List.mem_pair.mp hverb with rfl | rfl
    · rw [ofWords.eq_7, if_neg h]
      rfl
    · cases more with
      | nil => rw [ofWords.eq_9, if_neg h]; rfl
      | cons mode more => rw [ofWords.eq_10, if_neg h]; rfl
  | badMode more h =>
    have hnone : modeOfWord? _ = none := Option.eq_none_iff_forall_ne_some.mpr fun b hb => h b (modeOfWord?_eq_some.mp hb)
    rw [ofWords.eq_10, if_pos rfl, hnone]
    rfl

/-- Words ask for something, or they are refused. -/
def Answerable (words : List String) : Prop :=
  (∃ call, Asks words call) ∨ ∃ message, Refused words message

/-- So it is with the words behind a verb of a command on sessions. -/
theorem answerable_of_sessions {verb : String} (hverb : verb ∈ ["list", "destroy"]) (more : List String) :
    Answerable (verb :: more) := by
  match more with
  | [] => exact .inr ⟨_, .missing (.verb (List.mem_append_left ["get", "set"] hverb)) rfl⟩
  | what :: more =>
    by_cases hwhat : what = "sessions"
    · subst hwhat
      obtain ⟨request, hrequest⟩ : ∃ request, SessionVerb verb request := by
        rcases List.mem_pair.mp hverb with rfl | rfl
        · exact ⟨_, .list⟩
        · exact ⟨_, .destroy⟩
      match more with
      | [] => exact .inl ⟨_, .sessions hrequest .everyone⟩
      | word :: more =>
        by_cases huser : word = "--user"
        · subst huser
          match more with
          | [] => exact .inr ⟨_, .missing (.user hverb) rfl⟩
          | name :: more =>
            cases hname : UserId.ofText name with
            | ok user => exact .inl ⟨_, .sessions hrequest (.named more hname)⟩
            | error e => exact .inr ⟨_, .badUser more hverb hname⟩
        · exact .inl ⟨_, .sessions hrequest (.passedOver more huser)⟩
    · exact .inr ⟨_, .noSessions more hverb hwhat⟩

/-- And with those behind a verb of a command on the flag. -/
theorem answerable_of_flag {verb : String} (hverb : verb ∈ ["get", "set"]) (more : List String) :
    Answerable (verb :: more) := by
  match more with
  | [] => exact .inr ⟨_, .missing (.verb (List.mem_append_right ["list", "destroy"] hverb)) rfl⟩
  | what :: more =>
    by_cases hwhat : what = flagWord
    · subst hwhat
      rcases List.mem_pair.mp hverb with rfl | rfl
      · exact .inl ⟨_, .get more⟩
      · match more with
        | [] => exact .inr ⟨_, .missing .mode rfl⟩
        | mode :: more =>
          by_cases hmode : ∃ b, IsMode mode b
          · obtain ⟨b, hb⟩ := hmode
            exact .inl ⟨_, .set more hb⟩
          · exact .inr ⟨_, .badMode more (not_exists.mp hmode)⟩
    · exact .inr ⟨_, .noFlag more hverb hwhat⟩

/-- Whatever the words are, something is said of them or the service is called. -/
theorem answerable (words : List String) : Answerable words := by
  match words with
  | [] => exact .inr ⟨_, .nothing⟩
  | verb :: more =>
    by_cases hsessions : verb ∈ ["list", "destroy"]
    · exact answerable_of_sessions hsessions more
    · by_cases hflag : verb ∈ ["get", "set"]
      · exact answerable_of_flag hflag more
      · by_cases hhelp : verb ∈ ["help", "-h"]
        · exact .inr ⟨_, .help more hhelp⟩
        · exact .inr ⟨_, .unknown more (List.not_mem_append hhelp (List.not_mem_append hsessions hflag))⟩

/-- Words ask for one call at most. -/
theorem Asks.unique {words : List String} {call other : CaptureCall} (h : Asks words call) (h' : Asks words other) :
    other = call :=
  CaptureCall.command_injective (Except.ok.inj ((ofWords_of_asks h').symm.trans (ofWords_of_asks h)))

/-- They are refused with one message at most. -/
theorem Refused.unique {words : List String} {message other : Message} (h : Refused words message)
    (h' : Refused words other) : other = message :=
  Option.some.inj ((of?_ofWords_of_refused h').symm.trans (of?_ofWords_of_refused h))

/-- Words that are refused ask for nothing. -/
theorem Refused.not_asks {words : List String} {message : Message} (h : Refused words message) (call : CaptureCall) :
    ¬Asks words call := by
  intro hasks
  have hmessage := of?_ofWords_of_refused h
  rw [ofWords_of_asks hasks] at hmessage
  cases call <;> cases hmessage

/-! ## Running words -/

/-- Prints what a call has brought; the code is that of the call if the stream takes all of it. -/
def printing (out err : Sink) (brought : String × Int32) : Act σ ShellRun :=
  match out.write brought.1 with
  | (true, out) => pure ⟨brought.2, out, err⟩
  | (false, out) => do
    Act.log .error "intelligence shell: sink is full"
    pure ⟨-1, out, err⟩

section Run

variable {service : CaptureService σ} {timeout : Nat} {words : List String} {call : CaptureCall} {message : Message}
  (out err : Sink) (s : σ)

/-- Words that ask for a call are run by making it and printing what it brings. -/
theorem exec_of_asks (h : Asks words call) :
    exec service timeout words out err = call.perform service timeout >>= printing out err := by
  rw [exec, ofWords_of_asks h]
  dsimp only
  rw [CaptureCall.report_command, bind_map_left]
  rfl

/-- Nothing but the call changes the state. -/
theorem state_exec_of_asks (h : Asks words call) :
    ((exec service timeout words out err).run s).state = ((call.perform service timeout).run s).state := by
  rw [exec_of_asks out err h]
  cases hvalue : ((call.perform service timeout).run s).value with
  | none => rw [Act.run_bind_of_hang hvalue]
  | some brought =>
    rw [Act.run_bind_of_value hvalue, printing]
    rcases out.write brought.1 with ⟨_ | _, out'⟩ <;> rfl

/-- A stream that does not fail takes what is printed. -/
theorem run_exec_of_performed (h : Asks words call) {text : String} {code : Int32}
    (hvalue : ((call.perform service timeout).run s).value = some (text, code)) (htakes : out.Takes text) :
    (exec service timeout words out err).run s =
      ⟨some ⟨code, out.put text, err⟩, ((call.perform service timeout).run s).state,
        ((call.perform service timeout).run s).log⟩ := by
  rw [exec_of_asks out err h, Act.run_bind_of_value hvalue, printing, Sink.write_of_takes htakes]
  simp

/-- If the call never returns, the shell does not either. -/
theorem run_exec_of_hang (h : Asks words call) (hvalue : ((call.perform service timeout).run s).value = none) :
    ((exec service timeout words out err).run s).value = none := by
  rw [exec_of_asks out err h, Act.run_bind_of_hang hvalue]

/-- Words that are refused leave the state as it is, and the code is that of a failure. -/
theorem exec_of_refused (h : Refused words message) :
    ((exec service timeout words out err).run s).state = s ∧
      ∃ run, ((exec service timeout words out err).run s).value = some run ∧ run.code = -1 := by
  rcases Message.of?_eq_some (of?_ofWords_of_refused h) with ⟨e, hwords, -⟩ | ⟨text, hwords, -⟩
  · rw [run_exec_of_error out err hwords]
    exact ⟨rfl, _, rfl, rfl⟩
  · have hreport : ((report service timeout (.say text)).run s).value = some ⟨text, -1⟩ := rfl
    obtain ⟨hvalue, hstate, -⟩ := run_exec_of_report out err hwords hreport
    exact ⟨hstate, _, hvalue, ite_self _⟩

/-- A stream that does not fail takes the message, and that is all that is printed. -/
theorem run_exec_of_refused (h : Refused words message) (hfits : message.Fits out err) :
    (exec service timeout words out err).run s = ⟨some (message.printed out err), s, []⟩ := by
  rcases Message.of?_eq_some (of?_ofWords_of_refused h) with ⟨e, hwords, rfl⟩ | ⟨text, hwords, rfl⟩
  · rw [run_exec_of_error out err hwords, Sink.write_of_takes hfits]
    rfl
  · have htakes : out.write text = (true, out.put text) := Sink.write_of_takes hfits
    rw [exec, hwords]
    simp [report, htakes, Message.printed]

/-- The call that words ask for is made once, and no other. -/
theorem state_exec_noted_of_asks (h : Asks words call) (calls : List CaptureCall) :
    ((exec service.noted timeout words out err).run (s, calls)).state =
      (((exec service timeout words out err).run s).state, calls ++ [call]) := by
  rw [state_exec_of_asks out err _ h, CaptureCall.run_perform_noted, state_exec_of_asks out err s h]

end Run

/-! ## The law of words -/

/-- What comes of words that are run as a command. -/
structure WordsLaw (service : CaptureService σ) (timeout : Nat) (words : List String) (out err : Sink) (s : σ) : Prop where
  /-- The words ask for exactly one call, or they are refused with exactly one message, and not both. -/
  sorted : ((∃! call, Asks words call) ∧ ∀ message, ¬Refused words message) ∨
    ((∃! message, Refused words message) ∧ ∀ call, ¬Asks words call)
  /-- The call that they ask for is made, once, and no other. -/
  made : ∀ (call : CaptureCall) (calls : List CaptureCall), Asks words call →
    ((exec service.noted timeout words out err).run (s, calls)).state =
      (((call.perform service timeout).run s).state, calls ++ [call])
  /-- What it brings is printed, and nothing else; the shell waits for a call that never returns. -/
  asked : ∀ call, Asks words call →
    ((exec service timeout words out err).run s).state = ((call.perform service timeout).run s).state ∧
      (((call.perform service timeout).run s).value = none → ((exec service timeout words out err).run s).value = none) ∧
      ∀ text code, ((call.perform service timeout).run s).value = some (text, code) → out.Takes text →
        ((exec service timeout words out err).run s).value = some ⟨code, out.put text, err⟩
  /-- The code is zero, unless a command on sessions had no answer in time. -/
  code : ∀ (call : CaptureCall) (text : String) (code : Int32),
    ((call.perform service timeout).run s).value = some (text, code) →
    code = 0 ∨ code = -1 ∧ text = "Timed out after " ++ timeText timeout ++ "\n" ∧
      ∃ user, (call = .list user ∧ ∀ answer data, ((service.list user).run s).value ≠ some (.answered answer data)) ∨
        (call = .destroy user ∧ ∀ answer data, ((service.destroy user).run s).value ≠ some (.answered answer data))
  /-- Of words that are refused no call is made, and nothing changes. -/
  unmade : ∀ (message : Message) (calls : List CaptureCall), Refused words message →
    ((exec service.noted timeout words out err).run (s, calls)).state = (s, calls)
  /-- The message is printed, and nothing else. -/
  refused : ∀ message, Refused words message → message.Fits out err →
    (exec service timeout words out err).run s = ⟨some (message.printed out err), s, []⟩

/-- The law of words, on every service. -/
theorem words_law (service : CaptureService σ) (timeout : Nat) (words : List String) (out err : Sink) (s : σ) :
    WordsLaw service timeout words out err s := by
  constructor
  case sorted =>
    rcases answerable words with ⟨call, hasks⟩ | ⟨message, hrefused⟩
    · exact .inl ⟨⟨call, hasks, fun _ h => hasks.unique h⟩, fun message hrefused => hrefused.not_asks call hasks⟩
    · exact .inr ⟨⟨message, hrefused, fun _ h => hrefused.unique h⟩, hrefused.not_asks⟩
  case made =>
    intro call calls hasks
    rw [state_exec_noted_of_asks out err s hasks, state_exec_of_asks out err s hasks]
  case asked =>
    refine fun call hasks => ⟨state_exec_of_asks out err s hasks, run_exec_of_hang out err s hasks, ?_⟩
    intro text code hvalue htakes
    rw [run_exec_of_performed out err s hasks hvalue htakes]
  case code => exact fun call text code hvalue => CaptureCall.code_of_performed hvalue
  case unmade => exact fun message calls hrefused => (exec_of_refused out err (s, calls) hrefused).1
  case refused => exact fun message hrefused hfits => run_exec_of_refused out err s hrefused hfits

end ShellCommand

end Switchboard
