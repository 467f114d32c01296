import Mathlib.Data.List.Basic
import Mathlib.Logic.ExistsUnique
import Switchboard.Program.Machine

/-!
# Words for the shell on the command line

Flags that are well given (`CommandLine.WellGiven`) are read as they are given, whatever follows them
(`CommandLine.readFrom_flagArgs`). Behind the name of the subcommand the words for the shell should be handed on as they are. They
are from the first plain word on, but the words before it are taken for the parser's own: a request for help is answered by the
parser, a flag is refused, and `--` is dropped. `shell_words_law` says what any words come to, and that they are handed on as they
are exactly if the first of them is plain, or there are none.

So the `help` that the help page of the subcommand advertises never reaches the shell, nor does the `-h` that the shell
understands (`help_does_not_reach_shell`).
-/

namespace Switchboard

/-! ## Steps of reading -/

namespace Grammar

variable {σ : Type} {g : Grammar σ} {state state' : σ} {help : Bool} {positionals others : List (Positional σ)} {arg : String}

/-- A request for help is remembered. -/
theorem readFrom_help (rest : List String) (h : asksForHelp arg = true) :
    g.readFrom ⟨state, help, false, positionals⟩ (arg :: rest) = g.readFrom ⟨state, true, false, positionals⟩ rest := by
  rw [readFrom]
  simp [h]

/-- Two dashes end the flags. -/
theorem readFrom_dashes (rest : List String) :
    g.readFrom ⟨state, help, false, positionals⟩ ("--" :: rest) = g.readFrom ⟨state, help, true, positionals⟩ rest := by
  rw [readFrom]
  rfl

/-- No flag may follow a request for help. -/
theorem readFrom_flag_behind_help (rest : List String) (hhelp : asksForHelp arg = false) (hdashed : isDashed arg = true)
    (hne : arg ≠ "--") : g.readFrom ⟨state, true, false, positionals⟩ (arg :: rest) = .error .afterHelp := by
  rw [readFrom]
  simp [hhelp, hdashed, hne]

/-- A flag that the command does not know is refused. -/
theorem readFrom_unknown_flag (rest : List String) (hhelp : asksForHelp arg = false) (hdashed : isDashed arg = true)
    (hne : arg ≠ "--") (hflag : g.flag? arg = none) :
    g.readFrom ⟨state, false, false, positionals⟩ (arg :: rest) = .error (.unrecognized arg) := by
  rw [readFrom]
  simp [hhelp, hdashed, hne, hflag]

/-- A flag takes the next argument for its value. -/
theorem readFrom_flag {flag : Flag σ} {value : String} (rest : List String) (hhelp : asksForHelp arg = false)
    (hdashed : isDashed arg = true) (hne : arg ≠ "--") (hflag : g.flag? arg = some flag)
    (hput : flag.put value state = .ok state') :
    g.readFrom ⟨state, false, false, positionals⟩ (arg :: value :: rest) =
      g.readFrom ⟨state', false, false, positionals⟩ rest := by
  rw [readFrom]
  simp [hhelp, hdashed, hne, hflag, hput]

/-- The arguments behind a subcommand are left to it. -/
theorem readFrom_subcommand {ended : Bool} {c : CommandEntry} (rest : List String)
    (hhelp : ended = false → asksForHelp arg = false) (hdashed : ended = false → isDashed arg = false)
    (h : g.subcommand? arg = some c) :
    g.readFrom ⟨state, false, ended, positionals⟩ (arg :: rest) = .ok (.subcommand state c.name rest) := by
  rw [readFrom]
  cases ended <;> simp_all

/-- A positional argument goes into the state. -/
theorem readFrom_positional {ended : Bool} {p : Positional σ} (rest : List String)
    (hhelp : ended = false → asksForHelp arg = false) (hdashed : ended = false → isDashed arg = false)
    (hnone : g.subcommand? arg = none) (hput : p.put arg state = .ok state') :
    g.readFrom ⟨state, help, ended, p :: others⟩ (arg :: rest) =
      g.readFrom ⟨state', help, ended || p.greedy, if p.repeats then p :: others else others⟩ rest := by
  rw [readFrom]
  cases ended <;> simp_all

end Grammar

namespace CommandLine

/-! ## Flags -/

/-- Flags with their values as arguments. -/
def flagArgs (given : List (String × String)) : List String :=
  given.flatMap fun flag => [flag.1, flag.2]

/-- The flags with a text for their value. -/
def textFlags : List String :=
  ["--cfg", "--service-dir", "--log-level"]

/-- The flags with a time for their value. -/
def timeFlags : List String :=
  ["--service-wait-timeout-ms", "--session-command-timeout-ms"]

/-- Each flag is one of the program, none is there twice, and where a time is wanted there is one. -/
structure WellGiven (given : List (String × String)) : Prop where
  known : ∀ flag ∈ given, flag.1 ∈ textFlags ∨ flag.1 ∈ timeFlags ∧ ∃ ms, milliseconds flag.2 = .ok ms
  once : (given.map Prod.fst).Nodup

/-- The time that is given with a flag. -/
def timeGiven (name : String) (given : List (String × String)) : Option UInt64 :=
  (given.lookup name).bind fun value => (milliseconds value).toOption

/-- The flags with the values that are given. -/
def flagsGiven (given : List (String × String)) : Flags where
  file := given.lookup "--cfg"
  given :=
    { serviceDir := given.lookup "--service-dir"
      waitTimeoutMs := timeGiven "--service-wait-timeout-ms" given
      logLevel := given.lookup "--log-level"
      commandTimeoutMs := timeGiven "--session-command-timeout-ms" given }

/-- A flag that is not there has no value. -/
theorem lookup_of_new {name : String} {given : List (String × String)} (hnew : name ∉ given.map Prod.fst) :
    given.lookup name = none := by
  refine List.lookup_eq_none_iff.mpr fun flag hflag => bne_iff_ne.mpr ?_
  rintro rfl
  exact hnew (List.mem_map_of_mem hflag)

/-- The value of a flag that was not there comes to the values of the others. -/
theorem lookup_snoc (name other value : String) (given : List (String × String)) :
    (given ++ [(name, value)]).lookup other = (given.lookup other).or (if other = name then some value else none) := by
  rw [List.lookup_append, List.lookup_cons]
  by_cases h : other = name
  · rw [if_pos h, beq_iff_eq.mpr h]
  · rw [if_neg h, beq_eq_false_iff_ne.mpr h]
    rfl

/-- A time that is given last is the one that counts for its option. -/
theorem timeGiven_snoc (name other value : String) (given : List (String × String)) (hnew : name ∉ given.map Prod.fst) :
    timeGiven other (given ++ [(name, value)]) =
      if other = name then (milliseconds value).toOption else timeGiven other given := by
  rw [timeGiven, lookup_snoc]
  by_cases h : other = name
  · rw [if_pos h, if_pos h, h, lookup_of_new hnew]
    rfl
  · rw [if_neg h, if_neg h, Option.or_none, timeGiven]

/-- The value of a flag goes to its place. -/
theorem put_flag {name value : String} {given : List (String × String)} (hnew : name ∉ given.map Prod.fst)
    (hknown : name ∈ textFlags ∨ name ∈ timeFlags ∧ ∃ ms, milliseconds value = .ok ms) :
    ∃ flag, grammar.flag? name = some flag ∧
      flag.put value (flagsGiven given) = .ok (flagsGiven (given ++ [(name, value)])) := by
  have hnone := lookup_of_new hnew
  rcases hknown with hname | ⟨hname, ms, hms⟩
  · simp only [textFlags, List.mem_cons, List.not_mem_nil, or_false] at hname
    rcases hname with rfl | rfl | rfl <;> refine ⟨_, rfl, ?_⟩ <;>
      simp [flagsGiven, hnone, once, plain, lookup_snoc, timeGiven_snoc _ _ _ _ hnew, Except.map]
  · simp only [timeFlags, List.mem_cons, List.not_mem_nil, or_false] at hname
    rcases hname with rfl | rfl <;> refine ⟨_, rfl, ?_⟩ <;>
      simp [flagsGiven, hnone, once, hms, lookup_snoc, timeGiven, Except.map, Except.toOption]

/-- An option within well given ones stands there once, and is one of those there are. -/
theorem WellGiven.of_append_cons {before rest : List (String × String)} {flag : String × String}
    (h : WellGiven (before ++ flag :: rest)) :
    flag.1 ∉ before.map Prod.fst ∧
      (flag.1 ∈ textFlags ∨ flag.1 ∈ timeFlags ∧ ∃ ms, milliseconds flag.2 = .ok ms) := by
  refine ⟨fun hmem => ?_, h.known flag (List.mem_append_right _ List.mem_cons_self)⟩
  have honce := h.once
  rw [List.map_append, List.map_cons] at honce
  exact (List.nodup_append.mp honce).2.2 _ hmem _ List.mem_cons_self rfl

/-- The name of a flag is a flag, and asks for no help. -/
theorem name_of_known {name : String} (h : name ∈ textFlags ∨ name ∈ timeFlags) :
    asksForHelp name = false ∧ isDashed name = true ∧ name ≠ "--" := by
  simp only [textFlags, timeFlags, List.mem_cons, List.not_mem_nil, or_false] at h
  rcases h with (rfl | rfl | rfl) | rfl | rfl <;> exact ⟨rfl, rfl, by decide⟩

/-- Flags that are well given are read as they are given. -/
theorem readFrom_flagArgs (before given : List (String × String)) (h : WellGiven (before ++ given)) (rest : List String) :
    grammar.readFrom ⟨flagsGiven before, false, false, []⟩ (flagArgs given ++ rest) =
      grammar.readFrom ⟨flagsGiven (before ++ given), false, false, []⟩ rest := by
  induction given generalizing before with
  | nil => rw [List.append_nil]; rfl
  | cons flag others ih =>
    obtain ⟨hnew, hknown⟩ := h.of_append_cons
    obtain ⟨hhelp, hdashed, hne⟩ := name_of_known (hknown.imp_right And.left)
    obtain ⟨entry, hentry, hput⟩ := put_flag hnew hknown
    have hsplit : before ++ flag :: others = (before ++ [flag]) ++ others := List.append_cons before flag others
    rw [hsplit] at h ⊢
    rw [← ih (before ++ [flag]) h]
    exact Grammar.readFrom_flag _ hhelp hdashed hne hentry hput

/-- The name of the subcommand for the shell ends the flags, and the words behind it are left to the subcommand. -/
theorem read_flagArgs {given : List (String × String)} (h : WellGiven given) (words : List String) :
    grammar.read Flags.none (flagArgs given ++ "intelligence" :: words) =
      .ok (.subcommand (flagsGiven given) "intelligence" words) := by
  have hflags := readFrom_flagArgs [] given h ("intelligence" :: words)
  have hentry : grammar.subcommand? "intelligence" = some ⟨"intelligence", intelligenceGrammar.about, '\x00'⟩ := rfl
  exact hflags.trans (Grammar.readFrom_subcommand words (fun _ => rfl) (fun _ => rfl) hentry)

/-- Behind well given options the words of the shell are read by themselves. -/
theorem ofArgs_flagArgs {given : List (String × String)} (h : WellGiven given) (words : List String) :
    ofArgs (flagArgs given ++ "intelligence" :: words) =
      (readLast intelligenceGrammar [] words).map fun words => ⟨flagsGiven given, .intelligence words⟩ := by
  rw [ofArgs, read_flagArgs h]
  change Except.map _ (Except.map _ (readLast intelligenceGrammar [] words)) = _
  cases readLast intelligenceGrammar [] words <;> rfl

/-! ## Words for the shell -/

/-- The word asks for help. -/
def IsHelp (word : String) : Prop :=
  word = "help" ∨ word = "--help"

/-- The word looks like a flag, and is none that means something to every command. -/
def IsFlag (word : String) : Prop :=
  word.toList.head? = some '-' ∧ word ≠ "--" ∧ word ≠ "--help"

/-- The word is no word of the parser's own. -/
def IsPlain (word : String) : Prop :=
  word.toList.head? ≠ some '-' ∧ word ≠ "help"

/-- What the words behind the name of the subcommand come to: words for the shell, or a reason to go no further. -/
inductive Handed : List String → Except CommandExit (List String) → Prop where
  | nothing : Handed [] (.ok [])
  | plain {word : String} (more : List String) (h : IsPlain word) : Handed (word :: more) (.ok (word :: more))
  /-- Behind two dashes all words are for the shell. -/
  | dashes (words : List String) : Handed ("--" :: words) (.ok words)
  | flag {word : String} (more : List String) (h : IsFlag word) : Handed (word :: more) (.error (.misuse (.unrecognized word)))
  /-- Help is asked for, at the front and not behind a flag; the words for the shell, if there are any, are forgotten. -/
  | help {asked rest : List String} (hne : asked ≠ []) (hasked : ∀ word ∈ asked, IsHelp word)
    (hrest : ∀ word ∈ rest.head?, ¬IsHelp word ∧ ¬IsFlag word) :
    Handed (asked ++ rest) (.error (.help intelligenceGrammar.help))
  | behindHelp {asked : List String} {word : String} (more : List String) (hne : asked ≠ [])
    (hasked : ∀ word ∈ asked, IsHelp word) (h : IsFlag word) :
    Handed (asked ++ word :: more) (.error (.misuse .afterHelp))

theorem IsHelp.asksForHelp {word : String} (h : IsHelp word) : asksForHelp word = true := by
  rcases h with rfl | rfl <;> rfl

/-- An option is a dashed word. -/
theorem IsFlag.isDashed {word : String} (h : IsFlag word) : isDashed word = true :=
  beq_iff_eq.mpr h.1

/-- An option does not ask for help. -/
theorem IsFlag.asksForHelp {word : String} (h : IsFlag word) : asksForHelp word = false := by
  have hhelp : word ≠ "help" := by
    rintro rfl
    exact absurd h.1 (by decide)
  simp [Switchboard.asksForHelp, h.2.2, hhelp]

/-- A plain word is not dashed. -/
theorem IsPlain.isDashed {word : String} (h : IsPlain word) : isDashed word = false :=
  beq_eq_false_iff_ne.mpr h.1

theorem IsPlain.asksForHelp {word : String} (h : IsPlain word) : asksForHelp word = false := by
  have hhelp : word ≠ "--help" := by
    rintro rfl
    exact h.1 rfl
  simp [Switchboard.asksForHelp, h.2, hhelp]

/-- Every word is of one of four kinds. -/
theorem kind_of_word (word : String) : IsHelp word ∨ word = "--" ∨ IsFlag word ∨ IsPlain word := by
  by_cases hdashed : word.toList.head? = some '-'
  · by_cases hdashes : word = "--"
    · exact .inr (.inl hdashes)
    · by_cases hhelp : word = "--help"
      · exact .inl (.inr hhelp)
      · exact .inr (.inr (.inl ⟨hdashed, hdashes, hhelp⟩))
  · by_cases hhelp : word = "help"
    · exact .inl (.inl hhelp)
    · exact .inr (.inr (.inr ⟨hdashed, hhelp⟩))

/-! ### Reading them -/

section Reading

variable {help ended : Bool} {word : String} {state : List String}

/-- A word that is taken ends the looking out for help and options. -/
theorem readFrom_word (words : List String) (hhelp : ended = false → asksForHelp word = false)
    (hdashed : ended = false → isDashed word = false) :
    intelligenceGrammar.readFrom ⟨state, help, ended, intelligenceGrammar.positionals⟩ (word :: words) =
      intelligenceGrammar.readFrom ⟨state ++ [word], help, true, intelligenceGrammar.positionals⟩ words := by
  cases ended <;> exact Grammar.readFrom_positional words hhelp hdashed rfl rfl

/-- Once the flags have ended, all words are for the shell. -/
theorem readFrom_ended (help : Bool) (state words : List String) :
    intelligenceGrammar.readFrom ⟨state, help, true, intelligenceGrammar.positionals⟩ words =
      .ok (if help then .help else .complete (state ++ words)) := by
  induction words generalizing state with
  | nil => rw [Grammar.readFrom, List.append_nil]
  | cons word rest ih =>
    have hword : intelligenceGrammar.readFrom ⟨state, help, true, intelligenceGrammar.positionals⟩ (word :: rest) =
        intelligenceGrammar.readFrom ⟨state ++ [word], help, true, intelligenceGrammar.positionals⟩ rest :=
      readFrom_word rest nofun nofun
    rw [hword, ih, ← List.append_cons]

/-- So they are from the first plain word on. -/
theorem readFrom_plain (help : Bool) (state words : List String) (h : IsPlain word) :
    intelligenceGrammar.readFrom ⟨state, help, false, intelligenceGrammar.positionals⟩ (word :: words) =
      .ok (if help then .help else .complete (state ++ word :: words)) := by
  rw [readFrom_word words (fun _ => h.asksForHelp) (fun _ => h.isDashed), readFrom_ended, ← List.append_cons]

/-- Requests for help are remembered. -/
theorem readFrom_asked (help : Bool) {asked : List String} (hne : asked ≠ []) (hasked : ∀ word ∈ asked, IsHelp word)
    (rest : List String) :
    intelligenceGrammar.readFrom ⟨state, help, false, intelligenceGrammar.positionals⟩ (asked ++ rest) =
      intelligenceGrammar.readFrom ⟨state, true, false, intelligenceGrammar.positionals⟩ rest := by
  induction asked generalizing help with
  | nil => exact absurd rfl hne
  | cons word others ih =>
    obtain ⟨hword, hothers⟩ := List.forall_mem_cons.mp hasked
    rw [List.cons_append, Grammar.readFrom_help _ hword.asksForHelp]
    rcases eq_or_ne others [] with rfl | hne
    · rfl
    · exact ih true hne hothers

/-- A word that is neither a request for help nor a flag ends the flags, so that help is all that is left. -/
theorem readFrom_behind_help {rest : List String} (h : ∀ word ∈ rest.head?, ¬IsHelp word ∧ ¬IsFlag word) :
    intelligenceGrammar.readFrom ⟨state, true, false, intelligenceGrammar.positionals⟩ rest = .ok .help := by
  cases rest with
  | nil => rw [Grammar.readFrom]; rfl
  | cons word more =>
    obtain ⟨hhelp, hflag⟩ := h word rfl
    rcases kind_of_word word with hword | rfl | hword | hword
    · exact absurd hword hhelp
    · rw [Grammar.readFrom_dashes, readFrom_ended]
      rfl
    · exact absurd hword hflag
    · rw [readFrom_plain true state more hword]
      rfl

end Reading

variable {given : List (String × String)} {words : List String} {outcome : Except CommandExit (List String)}

/-- What the words come to is what reading them comes to. -/
theorem readLast_of_handed (h : Handed words outcome) : readLast intelligenceGrammar [] words = outcome := by
  rw [readLast, Grammar.read]
  cases h with
  | nothing => rfl
  | plain more h => rw [readFrom_plain false [] more h]; rfl
  | dashes words => rw [Grammar.readFrom_dashes, readFrom_ended]; rfl
  | flag more h => rw [Grammar.readFrom_unknown_flag more h.asksForHelp h.isDashed h.2.1 rfl]
  | help hne hasked hrest => rw [readFrom_asked false hne hasked, readFrom_behind_help hrest]
  | behindHelp more hne hasked h =>
    rw [readFrom_asked false hne hasked, Grammar.readFrom_flag_behind_help more h.asksForHelp h.isDashed h.2.1]

/-- The requests for help at the front can be taken off. -/
theorem exists_asked_append (words : List String) :
    ∃ asked rest, words = asked ++ rest ∧ (∀ word ∈ asked, IsHelp word) ∧ ∀ word ∈ rest.head?, ¬IsHelp word := by
  induction words with
  | nil => exact ⟨[], [], rfl, List.forall_mem_nil _, nofun⟩
  | cons word more ih =>
    by_cases hhelp : IsHelp word
    · obtain ⟨asked, rest, rfl, hasked, hrest⟩ := ih
      exact ⟨word :: asked, rest, rfl, List.forall_mem_cons.mpr ⟨hhelp, hasked⟩, hrest⟩
    · refine ⟨[], word :: more, rfl, List.forall_mem_nil _, fun first hfirst => ?_⟩
      obtain rfl := Option.some.inj hfirst
      exact hhelp

/-- Any words come to something. -/
theorem exists_handed (words : List String) : ∃ outcome, Handed words outcome := by
  obtain ⟨asked, rest, rfl, hasked, hrest⟩ := exists_asked_append words
  rcases eq_or_ne asked [] with rfl | hne
  · cases rest with
    | nil => exact ⟨_, .nothing⟩
    | cons word more =>
      rcases kind_of_word word with hword | rfl | hword | hword
      · exact absurd hword (hrest word rfl)
      · exact ⟨_, .dashes more⟩
      · exact ⟨_, .flag more hword⟩
      · exact ⟨_, .plain more hword⟩
  · cases rest with
    | nil => exact ⟨_, .help hne hasked nofun⟩
    | cons word more =>
      by_cases hflag : IsFlag word
      · exact ⟨_, .behindHelp more hne hasked hflag⟩
      · refine ⟨_, .help hne hasked fun first hfirst => ?_⟩
        obtain rfl := Option.some.inj hfirst
        exact ⟨hrest word rfl, hflag⟩

/-- The words are handed on as they are exactly if the first of them is plain, or there are none. -/
theorem handed_self_iff : Handed words (.ok words) ↔ ∀ word ∈ words.head?, IsPlain word := by
  constructor
  · generalize hok : Except.ok words = outcome
    intro h
    cases h with
    | nothing => exact nofun
    | plain more h =>
      intro first hfirst
      obtain rfl := Option.some.inj hfirst
      exact h
    | dashes more => exact absurd (Except.ok.inj hok) (by simp)
    | flag more h => cases hok
    | help hne hasked hrest => cases hok
    | behindHelp more hne hasked h => cases hok
  · intro h
    cases words with
    | nil => exact .nothing
    | cons word more => exact .plain more (h word rfl)

/-! ## The law of words for the shell -/

/-- What comes of a command line with flags, the name of the subcommand for the shell, and words behind it. -/
structure ShellWordsLaw (given : List (String × String)) (words : List String) : Prop where
  /-- The words come to one thing. -/
  comes : ∃! outcome, Handed words outcome
  /-- That is what the command line comes to, with the flags as they are given. -/
  read : ∀ outcome, Handed words outcome →
    ofArgs (flagArgs given ++ "intelligence" :: words) =
      outcome.map fun handed => ⟨flagsGiven given, .intelligence handed⟩
  /-- The words are handed on as they are exactly if the first of them is plain, or there are none. -/
  passed : ofArgs (flagArgs given ++ "intelligence" :: words) = .ok ⟨flagsGiven given, .intelligence words⟩ ↔
    ∀ word ∈ words.head?, IsPlain word
  /-- A run that gets as far as its subcommand runs the shell on the words that were handed on, with the settings by the flags. -/
  run : ∀ (m : Machine) (plan : Plan),
    Plan.ofArgs m.files.contentOf (flagArgs given ++ "intelligence" :: words) = .ok plan →
    Settings.load m.files.contentOf (flagsGiven given).file (flagsGiven given).given = .ok plan.settings ∧
      ∃ handed, Handed words (.ok handed) ∧
        (Machine.start (flagArgs given ++ "intelligence" :: words)).run m =
          (Machine.ended <$> Machine.within plan.settings.serviceDir (Program.intelligence plan.settings handed)).run m

/-- The law of words for the shell, behind all flags that are well given. -/
theorem shell_words_law (h : WellGiven given) (words : List String) : ShellWordsLaw given words := by
  obtain ⟨outcome, houtcome⟩ := exists_handed words
  have hline : ofArgs (flagArgs given ++ "intelligence" :: words) =
      outcome.map fun handed => ⟨flagsGiven given, .intelligence handed⟩ := by
    rw [ofArgs_flagArgs h, readLast_of_handed houtcome]
  have hunique : ∀ other, Handed words other → other = outcome := fun other hother =>
    (readLast_of_handed hother).symm.trans (readLast_of_handed houtcome)
  constructor
  case comes => exact ⟨outcome, houtcome, hunique⟩
  case read => exact fun other hother => hunique other hother ▸ hline
  case passed =>
    rw [hline, ← handed_self_iff]
    constructor
    · intro hpassed
      cases outcome with
      | error e => cases hpassed
      | ok handed =>
        obtain rfl : handed = words := by simpa [Except.map] using hpassed
        exact houtcome
    · intro hself
      rw [← hunique _ hself]
      rfl
  case run =>
    intro m plan hplan
    have hstart : (Machine.start (flagArgs given ++ "intelligence" :: words)).run m = (Machine.perform plan).run m := by
      rw [Machine.start, Act.run_bind_of_value rfl]
      simp only [Act.run_get, hplan]
      rfl
    rw [Plan.ofArgs, hline] at hplan
    cases outcome with
    | error e => cases hplan
    | ok handed =>
      simp only [Except.map] at hplan
      split at hplan
      · cases hplan
      · rename_i settings hsettings
        split at hplan
        · cases hplan
        · cases hplan
          exact ⟨hsettings, handed, houtcome, hstart⟩

/-! ### Words behind two dashes -/

namespace Typed

/-- A directory and a time, which is given with a sign. -/
def flags : List (String × String) :=
  [("--service-wait-timeout-ms", "+250"), ("--service-dir", "svc")]

/-- The two options are well given. -/
theorem wellGiven : WellGiven flags where
  known := by
    refine List.forall_mem_cons.mpr ⟨.inr ⟨by decide, 250, rfl⟩, List.forall_mem_cons.mpr ⟨.inl (by decide), ?_⟩⟩
    exact List.forall_mem_nil _
  once := by decide

end Typed

/-- Two dashes bring any words to the shell, also those that the parser would take for its own. -/
theorem help_behind_dashes_reaches_shell :
    WellGiven Typed.flags ∧
      ofArgs ["--service-wait-timeout-ms", "+250", "--service-dir", "svc", "intelligence", "--", "help"] =
        .ok ⟨⟨none, ⟨some "svc", some 250, none, none⟩⟩, .intelligence ["help"]⟩ :=
  ⟨Typed.wellGiven, (shell_words_law Typed.wellGiven ["--", "help"]).read _ (.dashes ["help"])⟩

/-- The shell has a command for help, but the word for it is answered by the parser, and the other one for it is refused. -/
theorem help_does_not_reach_shell :
    ShellCommand.ofWords ["help"] = .ok (.say ShellCommand.help) ∧
      ofArgs ["intelligence", "help"] = .error (.help intelligenceGrammar.help) ∧
      ShellCommand.ofWords ["-h"] = .ok (.say ShellCommand.help) ∧
      ofArgs ["intelligence", "-h"] = .error (.misuse (.unrecognized "-h")) :=
  ⟨rfl, rfl, rfl, rfl⟩

end CommandLine

end Switchboard
