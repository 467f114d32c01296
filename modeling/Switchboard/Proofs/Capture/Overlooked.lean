import Switchboard.Proofs.Capture.Words

/-!
# Words that are passed over

A command on sessions stands whole in its words if these are the verb, `sessions`, and at most `--user` and a user behind it
(`ShellCommand.Whole`). The shell does not look further than it must: another word than `--user` behind `sessions` is passed over,
and so is whatever stands behind the user (`ShellCommand.Overlooked`). The help text and the way in which all other misuse is
treated make one expect that such words are refused, and `session_words_law` says where this is so: of all words that begin with
the verb of a command on sessions, exactly those with words that are passed over ask for something though they are not whole.

The worst of it is that a restriction to one user that is misspelt is none (`misspelt_restriction_destroys_all`).
-/

namespace Switchboard

variable {σ : Type}

namespace ShellCommand

/-! ## Whole commands -/

/-- The words are a command on sessions, and nothing besides. -/
inductive Whole : List String → CaptureCall → Prop where
  | everyone {verb : String} {request : UserId → CaptureCall} (hverb : SessionVerb verb request) :
    Whole [verb, "sessions"] (request .all)
  | named {verb word : String} {request : UserId → CaptureCall} {user : UserId} (hverb : SessionVerb verb request)
    (h : UserId.ofText word = .ok user) : Whole [verb, "sessions", "--user", word] (request user)

/-- The words are a command on sessions, and some of them are passed over. -/
inductive Overlooked : List String → CaptureCall → Prop where
  | unknown {verb word : String} {request : UserId → CaptureCall} (more : List String) (hverb : SessionVerb verb request)
    (h : word ≠ "--user") : Overlooked (verb :: "sessions" :: word :: more) (request .all)
  | behind {verb word next : String} {request : UserId → CaptureCall} {user : UserId} (more : List String)
    (hverb : SessionVerb verb request) (h : UserId.ofText word = .ok user) :
    Overlooked (verb :: "sessions" :: "--user" :: word :: next :: more) (request user)

/-- The words begin with the verb of a command on sessions. -/
def OnSessions (words : List String) : Prop :=
  ∃ verb request, words.head? = some verb ∧ SessionVerb verb request

variable {words : List String} {call : CaptureCall}

/-- Arguments without anything overlooked are among those that call the service. -/
theorem Whole.asks (h : Whole words call) : Asks words call := by
  cases h with
  | everyone hverb => exact .sessions hverb .everyone
  | named hverb h => exact .sessions hverb (.named [] h)

/-- So are those with something overlooked. -/
theorem Overlooked.asks (h : Overlooked words call) : Asks words call := by
  cases h with
  | unknown more hverb h => exact .sessions hverb (.passedOver more h)
  | behind more hverb h => exact .sessions hverb (.named _ h)

/-- Whole words have no words that are passed over. -/
theorem Overlooked.not_whole (h : Overlooked words call) (other : CaptureCall) : ¬Whole words other := by
  cases h with
  | unknown more hverb h =>
    rintro (_ | _)
    exact h rfl
  | behind more hverb h => rintro (_ | _)

/-- Words that begin with such a verb and ask for something are whole, or have words that are passed over. -/
theorem Asks.whole_or_overlooked (h : Asks words call) (hsessions : OnSessions words) :
    Whole words call ∨ Overlooked words call := by
  obtain ⟨verb, request, hhead, hverb⟩ := hsessions
  cases h with
  | sessions hverb h =>
    cases h with
    | everyone => exact .inl (.everyone hverb)
    | passedOver more h => exact .inr (.unknown more hverb h)
    | named more h =>
      cases more with
      | nil => exact .inl (.named hverb h)
      | cons next more => exact .inr (.behind more hverb h)
  | get more =>
    cases hhead
    exact absurd hverb.mem (by decide)
  | set more h =>
    cases hhead
    exact absurd hverb.mem (by decide)

/-! ## The law of commands on sessions -/

/-- What comes of words that begin with the verb of a command on sessions. -/
structure SessionWordsLaw (service : CaptureService σ) (timeout : Nat) (words : List String) (out err : Sink) (s : σ) : Prop where
  /-- Whole words ask for their call, which is made, and no other. -/
  whole : ∀ (call : CaptureCall) (calls : List CaptureCall), Whole words call →
    ((exec service.noted timeout words out err).run (s, calls)).state =
      (((exec service timeout words out err).run s).state, calls ++ [call])
  /-- Where no words are passed over, all words that are not whole are refused: no call is made, nothing changes, the code is that
  of a failure, and a stream that does not fail takes the message. -/
  refused : OnSessions words → (∀ call, ¬Overlooked words call) → (∀ call, ¬Whole words call) →
    (∀ calls, ((exec service.noted timeout words out err).run (s, calls)).state = (s, calls)) ∧
      ((exec service timeout words out err).run s).state = s ∧
      (∃ run, ((exec service timeout words out err).run s).value = some run ∧ run.code = -1) ∧
      ∃ message, Refused words message ∧ (message.Fits out err →
        (exec service timeout words out err).run s = ⟨some (message.printed out err), s, []⟩)
  /-- Words with others that are passed over are not whole, and their call is made all the same; what it brings is printed, and the
  code is that of the call. -/
  overlooked : ∀ (call : CaptureCall) (calls : List CaptureCall), Overlooked words call →
    (∀ other, ¬Whole words other) ∧
      ((exec service.noted timeout words out err).run (s, calls)).state =
        (((exec service timeout words out err).run s).state, calls ++ [call]) ∧
      ∀ text code, ((call.perform service timeout).run s).value = some (text, code) → out.Takes text →
        ((exec service timeout words out err).run s).value = some ⟨code, out.put text, err⟩
  /-- Everyone's sessions are destroyed by words without a restriction, by such that restrict the command to everyone, and by such
  that have any other word than `--user` where the restriction should be. -/
  everyone : Asks words (.destroy .all) ↔ words = ["destroy", "sessions"] ∨
    (∃ word more, words = "destroy" :: "sessions" :: "--user" :: word :: more ∧ UserId.ofText word = .ok .all) ∨
      ∃ word more, words = "destroy" :: "sessions" :: word :: more ∧ word ≠ "--user"

/-- The law of commands on sessions, on every service. -/
theorem session_words_law (service : CaptureService σ) (timeout : Nat) (words : List String) (out err : Sink) (s : σ) :
    SessionWordsLaw service timeout words out err s := by
  constructor
  case whole => exact fun call calls hwhole => state_exec_noted_of_asks out err s hwhole.asks calls
  case refused =>
    intro hsessions hoverlooked hwhole
    rcases answerable words with ⟨call, hasks⟩ | ⟨message, hrefused⟩
    · rcases hasks.whole_or_overlooked hsessions with h | h
      · exact absurd h (hwhole call)
      · exact absurd h (hoverlooked call)
    · have hfailed : ((exec service timeout words out err).run s).state = s ∧
          ∃ run, ((exec service timeout words out err).run s).value = some run ∧ run.code = -1 :=
        exec_of_refused out err s hrefused
      exact ⟨fun calls => (exec_of_refused out err (s, calls) hrefused).1, hfailed.1, hfailed.2, message, hrefused,
        run_exec_of_refused out err s hrefused⟩
  case overlooked =>
    refine fun call calls h => ⟨h.not_whole, state_exec_noted_of_asks out err s h.asks calls, ?_⟩
    intro text code hvalue htakes
    rw [run_exec_of_performed out err s h.asks hvalue htakes]
  case everyone =>
    constructor
    · intro h
      generalize hcall : CaptureCall.destroy .all = call at h
      cases h with
      | sessions hverb h =>
        cases hverb with
        | list => cases hcall
        | destroy =>
          obtain rfl := CaptureCall.destroy.inj hcall
          cases h with
          | everyone => exact .inl rfl
          | passedOver more h => exact .inr (.inr ⟨_, more, rfl, h⟩)
          | named more h => exact .inr (.inl ⟨_, more, rfl, h⟩)
      | get more => cases hcall
      | set more h => cases hcall
    · rintro (rfl | ⟨word, more, rfl, h⟩ | ⟨word, more, rfl, h⟩)
      · exact .sessions .destroy .everyone
      · exact .sessions .destroy (.named more h)
      · exact .sessions .destroy (.passedOver more h)

/-! ### A restriction that is misspelt -/

namespace Misspelt

/-- A store with a session of each of two users. -/
def store : SessionStore :=
  ((SessionStore.new ⟨0⟩).add ⟨10⟩ "s10").add ⟨11⟩ "s11"

def restricted : List String :=
  ["destroy", "sessions", "--usr", "10"]

end Misspelt

/-- The words are not whole, but the sessions of both users are destroyed, and the code is zero. -/
theorem misspelt_restriction_destroys_all :
    (∀ call, ¬Whole Misspelt.restricted call) ∧ Misspelt.store.collect .all = ["s10", "s11"] ∧
      (((exec SessionStore.service 5000000000 Misspelt.restricted Desk.out Desk.out).run Misspelt.store).value.map Desk.shown) =
        some (0, [], []) ∧
      ((exec SessionStore.service 5000000000 Misspelt.restricted Desk.out Desk.out).run Misspelt.store).state.collect .all = [] := by
  have hoverlooked : Overlooked Misspelt.restricted (.destroy .all) := .unknown ["10"] .destroy (by decide)
  exact ⟨hoverlooked.not_whole, by decide +kernel, by decide +kernel, by decide +kernel⟩

end ShellCommand

end Switchboard
