import Mathlib.Data.List.TakeWhile
import NfsWatch.Config.Resolve
import NfsWatch.Proofs.Number.Numeral

/-!
# Precedence: which settings come into force

Each parameter has one text in force: that of its flag, else that of its variable unless that is
blank, else a standard one. What a text means for a parameter (`Means`), and which fault it has
where it means nothing (`Refused`), is stated without the readers, which follow both
(`read_eq_ok_iff`, `read_eq_error_iff`).

The settings are read off the texts in force, one parameter after the other
(`resolve_eq_assemble`). What a flag shadows is no part of these texts (`effective_congr`), so it
changes neither the settings nor the fault.
-/

namespace NfsWatch

open IntegerText

def Sequencing.names : Sequencing → List String
  | .ordered => ["ordered", "sequenced"]
  | .unordered => ["unordered", "compat"]

def HiddenPolicy.names : HiddenPolicy → List String
  | .reshow => ["reshow", "live"]
  | .sticky => ["sticky"]

namespace Config

/-! ## Parameters -/

/-- What can be given as a flag or as a variable. -/
inductive Parameter
  | url
  | pollPeriod
  | staleAfter
  | sequencing
  | hiddenSections
deriving DecidableEq, Repr

/-- The text as names are compared with it. -/
def compared (text : String) : String := Text.lower (Text.trim text)

/-- Blanks around a numeral do not count. -/
def Denotes (largest : Nat) (text : String) (n : Nat) : Prop :=
  ∃ numeral : Numeral, numeral.text = Text.trim text ∧ numeral.value = n ∧ n ≤ largest

namespace Parameter

/-- The parameters in the order in which they are looked at. -/
def all : List Parameter := [.url, .pollPeriod, .staleAfter, .sequencing, .hiddenSections]

abbrev Value : Parameter → Type
  | .url => Url
  | .pollPeriod => Nat
  | .staleAfter => Nat
  | .sequencing => Sequencing
  | .hiddenSections => HiddenPolicy

/-- The text of the flag; a number is typed in decimal. -/
def flag? (flags : Flags) : Parameter → Option String
  | .url => flags.url
  | .pollPeriod => flags.pollMs.map (fun ms => write ms.toNat)
  | .staleAfter => flags.staleAfter.map (fun failures => write failures.toNat)
  | .sequencing => flags.sequencing
  | .hiddenSections => flags.hiddenSections

def variableName : Parameter → String
  | .url => "NFSMON_URL"
  | .pollPeriod => "NFSMON_POLL_MS"
  | .staleAfter => "NFSMON_STALE_AFTER"
  | .sequencing => "NFSMON_SEQUENCING"
  | .hiddenSections => "NFSMON_HIDDEN_SECTIONS"

/-- The text where none is given. -/
def standard : Parameter → String
  | .url => "http://127.0.0.1:8080"
  | .pollPeriod => "1000"
  | .staleAfter => "3"
  | .sequencing => "ordered"
  | .hiddenSections => "reshow"

/-- What a text means for a parameter. -/
def Means : (parameter : Parameter) → String → parameter.Value → Prop
  | .url, text, base => Url.parse (Text.trim text) = .ok (.base base)
  | .pollPeriod, text, ms => Denotes largest64 text ms ∧ ms ≠ 0
  | .staleAfter, text, failures => Denotes largest32 text failures
  | .sequencing, text, mode => compared text ∈ mode.names
  | .hiddenSections, text, policy => compared text ∈ policy.names

end Parameter

/-- Under which name a poll period is refused. -/
def periodSetting (flags : Flags) : Setting :=
  if flags.pollMs.isSome then .pollFlag else .pollVariable

/-- The fault of a text that means nothing for a parameter. -/
inductive Refused (flags : Flags) (text : String) : Parameter → Fault → Prop
  | noUrl {fault : Url.Fault} (h : Url.parse (Text.trim text) = .error fault) :
      Refused flags text .url (.invalid .url text (.url fault))
  | pathless (h : Url.parse (Text.trim text) = .ok .pathless) :
      Refused flags text .url (.pathlessUrl text)
  | noPeriod {fault : IntegerText.Fault} (h : fault.Of largest64 (Text.trim text).toList) :
      Refused flags text .pollPeriod (.invalid (periodSetting flags) text (.number fault))
  | zeroPeriod (h : Denotes largest64 text 0) :
      Refused flags text .pollPeriod (.invalid (periodSetting flags) text .zeroPeriod)
  | noLimit {fault : IntegerText.Fault} (h : fault.Of largest32 (Text.trim text).toList) :
      Refused flags text .staleAfter (.invalid .staleAfter text (.number fault))
  | noMode (h : ∀ mode : Sequencing, compared text ∉ mode.names) :
      Refused flags text .sequencing
        (.invalid .sequencing text (.unknownName s!"Unknown sequencing mode: {compared text}"))
  | noPolicy (h : ∀ policy : HiddenPolicy, compared text ∉ policy.names) :
      Refused flags text .hiddenSections (.invalid .hiddenSections text
        (.unknownName s!"Unknown hidden-section policy: {compared text}"))

/-- The fault is that of the first of some parameters whose text means nothing. -/
def FirstRefused (flags : Flags) (texts : Parameter → String) (fault : Fault)
    (parameters : List Parameter) : Prop :=
  ∃ before parameter after, parameters = before ++ parameter :: after ∧
    Refused flags (texts parameter) parameter fault ∧
    ∀ earlier ∈ before, ∃ value, earlier.Means (texts earlier) value

/-- The text in force. -/
def effective (flags : Flags) (environment : Environment) (parameter : Parameter) : String :=
  match parameter.flag? flags, environment parameter.variableName with
  | some text, _ => text
  | none, some text => if Text.trim text = "" then parameter.standard else text
  | none, none => parameter.standard

def value (config : Config) : (parameter : Parameter) → parameter.Value
  | .url => config.base
  | .pollPeriod => config.poll.intervalMs
  | .staleAfter => config.poll.staleAfter
  | .sequencing => config.poll.sequencing
  | .hiddenSections => config.poll.hiddenSections

/-- The log is switched off by one of the usual words. -/
def Silenced (environment : Environment) : Prop :=
  ∃ text, environment "NFSMON_LOG_STDERR" = some text ∧
    compared text ∈ ["0", "false", "no", "off"]

/-- A variable has the same value in both environments, where a blank one has none. -/
def Agree (environment environment' : Environment) (name : String) : Prop :=
  ∀ text, Text.trim text ≠ "" → (environment name = some text ↔ environment' name = some text)

/-! ## Blanks -/

theorem isBlankText_iff {text : String} : Text.isBlankText text = true ↔ Text.trim text = "" := by
  rw [Text.isBlankText, List.all_eq_true, ← Text.trimChars_eq_nil_iff, Text.trim,
    String.ofList_eq_empty_iff]

theorem given?_eq_some_iff {environment : Environment} {name text : String} :
    environment.given? name = some text ↔ environment name = some text ∧ Text.trim text ≠ "" := by
  rw [Environment.given?, Option.filter_eq_some_iff, Bool.not_eq_true', ← Bool.not_eq_true,
    isBlankText_iff]

theorem given?_congr {environment environment' : Environment} {name : String}
    (h : Agree environment environment' name) :
    environment.given? name = environment'.given? name := by
  refine Option.ext fun text => ?_
  rw [given?_eq_some_iff, given?_eq_some_iff]
  exact and_congr_left (h text)

theorem isBlank_of_isDigit {c : Char} (h : c.isDigit = true) : Text.isBlank c = false := by
  obtain ⟨hlow, hhigh⟩ := Char.isDigit_iff_toNat.mp h
  have hzero : '0'.toNat = 48 := rfl
  have hnine : '9'.toNat = 57 := rfl
  simp only [Text.isBlank, Bool.or_eq_false_iff, Bool.and_eq_false_imp, decide_eq_true_eq,
    decide_eq_false_iff_not, beq_eq_false_iff_ne]
  omega

theorem trim_eq_self {text : String} (h : ∀ c ∈ text.toList, Text.isBlank c = false) :
    Text.trim text = text := by
  have hkept : ∀ cs : List Char, (∀ c ∈ cs, Text.isBlank c = false) →
      cs.dropWhile Text.isBlank = cs := by
    intro cs hcs
    refine List.dropWhile_eq_self_iff.mpr fun hlength => ?_
    rw [hcs _ (List.getElem_mem hlength)]
    exact Bool.false_ne_true
  rw [Text.trim, Text.trimChars, hkept _ h, hkept _ fun c hmem => h c (List.mem_reverse.mp hmem),
    List.reverse_reverse, String.ofList_toList]

theorem trim_write (n : Nat) : Text.trim (write n) = write n := by
  refine trim_eq_self fun c hmem => isBlank_of_isDigit ?_
  rw [write, String.toList_ofList] at hmem
  exact Nat.isDigit_of_mem_toDigits (by decide) (by decide) hmem

/-! ## Readers -/

theorem bind_eq_ok_iff {α β : Type} {first : Except Fault α} {rest : α → Except Fault β} {b : β} :
    first >>= rest = .ok b ↔ ∃ a, first = .ok a ∧ rest a = .ok b := by
  cases first with
  | ok a => exact ⟨fun h => ⟨a, rfl, h⟩, fun ⟨_, rfl, h⟩ => h⟩
  | error fault => exact ⟨nofun, fun ⟨_, h, _⟩ => nomatch h⟩

theorem bind_eq_error_iff {α β : Type} {first : Except Fault α} {rest : α → Except Fault β}
    {fault : Fault} :
    first >>= rest = .error fault ↔
      first = .error fault ∨ ∃ a, first = .ok a ∧ rest a = .error fault := by
  cases first with
  | ok a =>
      constructor
      · exact fun h => .inr ⟨a, rfl, h⟩
      · rintro (h | ⟨_, ⟨⟩, h⟩)
        · exact nomatch h
        · exact h
  | error other =>
      constructor
      · exact fun h => .inl (congrArg _ (Except.error.inj h))
      · rintro (h | ⟨_, h, _⟩)
        · exact congrArg _ (Except.error.inj h)
        · exact nomatch h

theorem mapError_eq_ok_iff {α ε : Type} {read : Except ε α} {fault : ε → Fault} {a : α} :
    read.mapError fault = .ok a ↔ read = .ok a := by
  cases read <;> simp [Except.mapError]

theorem mapError_eq_error_iff {α ε : Type} {read : Except ε α} {fault : ε → Fault} {e : Fault} :
    read.mapError fault = .error e ↔ ∃ cause, read = .error cause ∧ fault cause = e := by
  cases read <;> simp [Except.mapError]

theorem baseUrl_eq_ok_iff {text : String} {base : Url} :
    baseUrl text = .ok base ↔ Url.parse (Text.trim text) = .ok (.base base) := by
  unfold baseUrl
  split <;> simp_all

theorem baseUrl_eq_error_iff {flags : Flags} {text : String} {fault : Fault} :
    baseUrl text = .error fault ↔ Refused flags text .url fault := by
  constructor
  · intro h
    unfold baseUrl at h
    split at h
    · cases h
      exact .noUrl ‹_›
    · cases h
      exact .pathless ‹_›
    · exact nomatch h
  · rintro (h | h)
    · simp only [baseUrl, h]
    · simp only [baseUrl, h]

theorem number_eq_ok_iff {setting : Setting} {largest n : Nat} {text : String} :
    number setting largest text = .ok n ↔ Denotes largest text n := by
  rw [number, mapError_eq_ok_iff, IntegerText.read, readChars_eq_ok_iff, Denotes]
  simp only [Numeral.text, ← String.toList_inj, String.toList_ofList]

theorem number_eq_error_iff {setting : Setting} {largest : Nat} {text : String} {fault : Fault} :
    number setting largest text = .error fault ↔
      ∃ cause : IntegerText.Fault, cause.Of largest (Text.trim text).toList ∧
        .invalid setting text (.number cause) = fault := by
  rw [number, mapError_eq_error_iff]
  simp only [IntegerText.read, readChars_eq_error_iff]

theorem period_eq (setting : Setting) (text : String) :
    period setting text = number setting largest64 text >>= fun ms =>
      if ms = 0 then .error (.invalid setting text .zeroPeriod) else .ok ms := by
  unfold period
  congr 1

theorem period_eq_ok_iff {setting : Setting} {text : String} {ms : Nat} :
    period setting text = .ok ms ↔ Denotes largest64 text ms ∧ ms ≠ 0 := by
  rw [period_eq, bind_eq_ok_iff]
  simp only [number_eq_ok_iff]
  constructor
  · rintro ⟨n, hread, h⟩
    split at h
    · exact nomatch h
    · obtain rfl := Except.ok.inj h
      exact ⟨hread, ‹_›⟩
  · rintro ⟨hread, hpos⟩
    exact ⟨ms, hread, if_neg hpos⟩

theorem period_eq_error_iff {flags : Flags} {text : String} {fault : Fault} :
    period (periodSetting flags) text = .error fault ↔ Refused flags text .pollPeriod fault := by
  rw [period_eq, bind_eq_error_iff, number_eq_error_iff]
  simp only [number_eq_ok_iff]
  constructor
  · rintro (⟨cause, hcause, rfl⟩ | ⟨n, hread, h⟩)
    · exact .noPeriod hcause
    · split at h
      · cases h
        subst n
        exact .zeroPeriod hread
      · exact nomatch h
  · rintro (hcause | hread)
    · exact .inl ⟨_, ‹_›, rfl⟩
    · exact .inr ⟨0, ‹_›, rfl⟩

/-- A reader that takes each choice by its names, and refuses any other text in certain words. -/
structure ReadsNames {α : Type} (ofText : String → Except String α) (names : α → List String)
    (words : String → String) : Prop where
  named : ∀ {text choice}, compared text ∈ names choice → ofText text = .ok choice
  unnamed : ∀ {text}, (∀ choice, compared text ∉ names choice) →
    ofText text = .error (words (compared text))

section ReadsNames

variable {α : Type} {ofText : String → Except String α} {names : α → List String}
  {words : String → String} {setting : Setting} {standard : α} {text : String}

theorem choice_eq_ok_iff (h : ReadsNames ofText names words) {read : α} :
    choice setting ofText standard (some text) = .ok read ↔ compared text ∈ names read := by
  rw [choice, mapError_eq_ok_iff]
  refine ⟨fun hread => ?_, h.named⟩
  by_cases hnamed : ∃ other, compared text ∈ names other
  · obtain ⟨other, hother⟩ := hnamed
    obtain rfl := Except.ok.inj ((h.named hother).symm.trans hread)
    exact hother
  · exact nomatch (h.unnamed (not_exists.mp hnamed)).symm.trans hread

theorem choice_eq_error_iff (h : ReadsNames ofText names words) {fault : Fault} :
    choice setting ofText standard (some text) = .error fault ↔
      (∀ read, compared text ∉ names read) ∧
        .invalid setting text (.unknownName (words (compared text))) = fault := by
  rw [choice, mapError_eq_error_iff]
  constructor
  · rintro ⟨refusal, hread, rfl⟩
    have hunnamed : ∀ read, compared text ∉ names read :=
      fun read hnamed => nomatch (h.named hnamed).symm.trans hread
    refine ⟨hunnamed, ?_⟩
    rw [Except.error.inj ((h.unnamed hunnamed).symm.trans hread)]
  · rintro ⟨hunnamed, rfl⟩
    exact ⟨_, h.unnamed hunnamed, rfl⟩

end ReadsNames

theorem ofText_sequencing (text : String) :
    Sequencing.ofText text =
      if compared text ∈ Sequencing.ordered.names then .ok .ordered
      else if compared text ∈ Sequencing.unordered.names then .ok .unordered
      else .error s!"Unknown sequencing mode: {compared text}" := rfl

theorem readsNames_sequencing :
    ReadsNames Sequencing.ofText Sequencing.names (s!"Unknown sequencing mode: {·}") where
  named {text mode} h := by
    rw [ofText_sequencing]
    cases mode with
    | ordered => rw [if_pos h]
    | unordered =>
        have hother : compared text ∉ Sequencing.ordered.names := by
          rcases List.mem_pair.mp h with h | h
          · rw [h]; decide
          · rw [h]; decide
        rw [if_neg hother, if_pos h]
  unnamed {text} h := by rw [ofText_sequencing, if_neg (h .ordered), if_neg (h .unordered)]

theorem ofText_hiddenSections (text : String) :
    HiddenPolicy.ofText text =
      if compared text ∈ HiddenPolicy.reshow.names then .ok .reshow
      else if compared text = "sticky" then .ok .sticky
      else .error s!"Unknown hidden-section policy: {compared text}" := rfl

theorem readsNames_hiddenSections :
    ReadsNames HiddenPolicy.ofText HiddenPolicy.names
      (s!"Unknown hidden-section policy: {·}") where
  named {text policy} h := by
    rw [ofText_hiddenSections]
    cases policy with
    | reshow => rw [if_pos h]
    | sticky =>
        have hsticky := List.mem_singleton.mp h
        have hother : compared text ∉ HiddenPolicy.reshow.names := by rw [hsticky]; decide
        rw [if_neg hother, if_pos hsticky]
  unnamed {text} h := by
    have hsticky : compared text ≠ "sticky" := fun heq => h .sticky (List.mem_singleton.mpr heq)
    rw [ofText_hiddenSections, if_neg (h .reshow), if_neg hsticky]

/-! ## Texts in force -/

/-- What a text gives for a parameter. -/
def Parameter.read (flags : Flags) : (parameter : Parameter) → String → Except Fault parameter.Value
  | .url => baseUrl
  | .pollPeriod => period (periodSetting flags)
  | .staleAfter => number .staleAfter largest32
  | .sequencing => fun text =>
      choice .sequencing Sequencing.ofText PollSettings.standard.sequencing (some text)
  | .hiddenSections => fun text =>
      choice .hiddenSections HiddenPolicy.ofText PollSettings.standard.hiddenSections (some text)

theorem read_eq_ok_iff (flags : Flags) {parameter : Parameter} {text : String}
    {value : parameter.Value} :
    parameter.read flags text = .ok value ↔ parameter.Means text value := by
  cases parameter <;> simp only [Parameter.read, Parameter.Means]
  case url => exact baseUrl_eq_ok_iff
  case pollPeriod => exact period_eq_ok_iff
  case staleAfter => exact number_eq_ok_iff
  case sequencing => exact choice_eq_ok_iff readsNames_sequencing
  case hiddenSections => exact choice_eq_ok_iff readsNames_hiddenSections

theorem read_eq_error_iff {flags : Flags} {parameter : Parameter} {text : String} {fault : Fault} :
    parameter.read flags text = .error fault ↔ Refused flags text parameter fault := by
  cases parameter <;> simp only [Parameter.read]
  case url => exact baseUrl_eq_error_iff
  case pollPeriod => exact period_eq_error_iff
  case staleAfter =>
    rw [number_eq_error_iff]
    constructor
    · rintro ⟨cause, hcause, rfl⟩
      exact .noLimit hcause
    · intro h
      cases h with
      | noLimit hcause => exact ⟨_, hcause, rfl⟩
  case sequencing =>
    rw [choice_eq_error_iff readsNames_sequencing]
    constructor
    · rintro ⟨hunnamed, rfl⟩
      exact .noMode hunnamed
    · intro h
      cases h with
      | noMode hunnamed => exact ⟨hunnamed, rfl⟩
  case hiddenSections =>
    rw [choice_eq_error_iff readsNames_hiddenSections]
    constructor
    · rintro ⟨hunnamed, rfl⟩
      exact .noPolicy hunnamed
    · intro h
      cases h with
      | noPolicy hunnamed => exact ⟨hunnamed, rfl⟩

theorem effective_eq (flags : Flags) (environment : Environment) (parameter : Parameter) :
    effective flags environment parameter =
      (parameter.flag? flags <|> environment.given? parameter.variableName).getD
        parameter.standard := by
  unfold effective Environment.given?
  cases parameter.flag? flags with
  | some text => rfl
  | none =>
      cases environment parameter.variableName with
      | none => rfl
      | some text =>
          by_cases hblank : Text.trim text = ""
          · have hgiven := isBlankText_iff.mpr hblank
            simp [Option.filter, hgiven, hblank]
          · have hgiven := Bool.not_eq_true _ ▸ mt isBlankText_iff.mp hblank
            simp [Option.filter, hgiven, hblank]

/-- Texts in force do not depend on variables that a flag shadows. -/
theorem effective_congr {flags : Flags} {environment environment' : Environment}
    {parameter : Parameter}
    (h : parameter.flag? flags = none → Agree environment environment' parameter.variableName) :
    effective flags environment parameter = effective flags environment' parameter := by
  rw [effective_eq, effective_eq]
  cases hflag : parameter.flag? flags with
  | some text => rfl
  | none => rw [given?_congr (h hflag)]

theorem number_write {setting : Setting} {largest n : Nat} (h : n ≤ largest) :
    number setting largest (write n) = .ok n := by
  rw [number, mapError_eq_ok_iff, IntegerText.read, trim_write]
  exact readChars_write h

theorem resolvePeriod_eq (flags : Flags) (environment : Environment) :
    resolvePeriod flags.pollMs (environment.given? "NFSMON_POLL_MS") =
      Parameter.pollPeriod.read flags (effective flags environment .pollPeriod) := by
  rw [effective_eq, Parameter.flag?, Parameter.variableName, Parameter.read, periodSetting]
  cases flags.pollMs with
  | some ms => rfl
  | none =>
      cases environment.given? "NFSMON_POLL_MS" with
      | some text => rfl
      | none =>
          have hstandard : period .pollVariable (write 1000) = .ok 1000 := by
            rw [period_eq, number_write (by decide)]
            rfl
          exact hstandard.symm

theorem resolveStaleAfter_eq (flags : Flags) (environment : Environment) :
    resolveStaleAfter flags.staleAfter (environment.given? "NFSMON_STALE_AFTER") =
      Parameter.staleAfter.read flags (effective flags environment .staleAfter) := by
  rw [effective_eq, Parameter.flag?, Parameter.variableName, Parameter.read]
  cases flags.staleAfter with
  | some failures => exact (number_write (Nat.le_of_lt_succ failures.toNat_lt)).symm
  | none =>
      cases environment.given? "NFSMON_STALE_AFTER" with
      | some text => rfl
      | none => exact (number_write (n := 3) (by decide)).symm

/-- Nothing given is the standard choice by its name. -/
theorem choice_eq {α : Type} {ofText : String → Except String α} {names : α → List String}
    {words : String → String} (h : ReadsNames ofText names words) {standard : α} {name : String}
    (hname : compared name ∈ names standard) (setting : Setting) (given : Option String) :
    choice setting ofText standard given =
      choice setting ofText standard (some (given.getD name)) := by
  cases given with
  | some text => rfl
  | none => exact ((choice_eq_ok_iff h).mpr hname).symm

/-- The settings that texts in force give. -/
def assemble (flags : Flags) (texts : Parameter → String) (logsToStderr : Bool) :
    Except Fault Config := do
  let base ← Parameter.url.read flags (texts .url)
  let intervalMs ← Parameter.pollPeriod.read flags (texts .pollPeriod)
  let staleAfter ← Parameter.staleAfter.read flags (texts .staleAfter)
  let sequencing ← Parameter.sequencing.read flags (texts .sequencing)
  let hiddenSections ← Parameter.hiddenSections.read flags (texts .hiddenSections)
  return {
    base
    poll := { intervalMs, sequencing, staleAfter, hiddenSections }
    pages := flags.page
    logsToStderr }

def logs (environment : Environment) : Bool :=
  ((environment.given? "NFSMON_LOG_STDERR").bind switch?).getD true

theorem resolve_eq_assemble (flags : Flags) (environment : Environment) :
    resolve flags environment =
      assemble flags (effective flags environment) (logs environment) := by
  have hurl : baseUrl ((flags.url <|> environment.given? "NFSMON_URL").getD standardUrl) =
      Parameter.url.read flags (effective flags environment .url) := by
    rw [effective_eq]
    rfl
  have hsequencing : choice .sequencing Sequencing.ofText PollSettings.standard.sequencing
        (flags.sequencing <|> environment.given? "NFSMON_SEQUENCING") =
      Parameter.sequencing.read flags (effective flags environment .sequencing) := by
    have hname : compared "ordered" ∈ Sequencing.ordered.names := by decide
    rw [effective_eq]
    exact choice_eq readsNames_sequencing hname _ _
  have hhidden : choice .hiddenSections HiddenPolicy.ofText PollSettings.standard.hiddenSections
        (flags.hiddenSections <|> environment.given? "NFSMON_HIDDEN_SECTIONS") =
      Parameter.hiddenSections.read flags (effective flags environment .hiddenSections) := by
    have hname : compared "reshow" ∈ HiddenPolicy.reshow.names := by decide
    rw [effective_eq]
    exact choice_eq readsNames_hiddenSections hname _ _
  rw [resolve, hurl, resolvePeriod_eq, resolveStaleAfter_eq, hsequencing, hhidden]
  rfl

theorem assemble_eq_ok_iff {flags : Flags} {texts : Parameter → String} {logsToStderr : Bool}
    {config : Config} :
    assemble flags texts logsToStderr = .ok config ↔
      (∀ parameter : Parameter, parameter.Means (texts parameter) (config.value parameter)) ∧
        config.pages = flags.page ∧ config.logsToStderr = logsToStderr := by
  simp only [assemble, bind_eq_ok_iff]
  constructor
  · rintro ⟨base, hbase, ms, hms, failures, hfailures, mode, hmode, policy, hpolicy, h⟩
    obtain rfl := Except.ok.inj h
    refine ⟨fun parameter => (read_eq_ok_iff flags).mp ?_, rfl, rfl⟩
    cases parameter with
    | url => exact hbase
    | pollPeriod => exact hms
    | staleAfter => exact hfailures
    | sequencing => exact hmode
    | hiddenSections => exact hpolicy
  · rintro ⟨hmeans, hpages, hlogs⟩
    have hread := fun parameter => (read_eq_ok_iff flags).mpr (hmeans parameter)
    refine ⟨_, hread .url, _, hread .pollPeriod, _, hread .staleAfter, _, hread .sequencing,
      _, hread .hiddenSections, ?_⟩
    rw [← hpages, ← hlogs]
    rfl

theorem not_firstRefused_nil {flags : Flags} {texts : Parameter → String} {fault : Fault} :
    ¬ FirstRefused flags texts fault [] := by
  rintro ⟨before, parameter, after, h, _⟩
  exact absurd h.symm (List.append_ne_nil_of_right_ne_nil before (List.cons_ne_nil _ _))

theorem firstRefused_cons {flags : Flags} {texts : Parameter → String} {fault : Fault}
    {parameter : Parameter} {parameters : List Parameter} :
    FirstRefused flags texts fault (parameter :: parameters) ↔
      Refused flags (texts parameter) parameter fault ∨
        (∃ value, parameter.Means (texts parameter) value) ∧
          FirstRefused flags texts fault parameters := by
  constructor
  · rintro ⟨_ | ⟨earlier, before⟩, refused, after, hsplit, hrefused, hbefore⟩
    · obtain ⟨rfl, rfl⟩ := List.cons.inj hsplit
      exact .inl hrefused
    · obtain ⟨rfl, rfl⟩ := List.cons.inj hsplit
      obtain ⟨hfirst, hbefore⟩ := List.forall_mem_cons.mp hbefore
      exact .inr ⟨hfirst, before, refused, after, rfl, hrefused, hbefore⟩
  · rintro (hrefused | ⟨hfirst, before, refused, after, rfl, hrefused, hbefore⟩)
    · exact ⟨[], parameter, parameters, rfl, hrefused, nofun⟩
    · exact ⟨parameter :: before, refused, after, rfl, hrefused,
        List.forall_mem_cons.mpr ⟨hfirst, hbefore⟩⟩

/-- Where a fault of what comes after a parameter does not depend on its value. -/
theorem firstRefused_bind {α : Type} {flags : Flags} {texts : Parameter → String} {fault : Fault}
    {parameter : Parameter} {parameters : List Parameter}
    {rest : parameter.Value → Except Fault α}
    (h : ∀ value, rest value = .error fault ↔ FirstRefused flags texts fault parameters) :
    parameter.read flags (texts parameter) >>= rest = .error fault ↔
      FirstRefused flags texts fault (parameter :: parameters) := by
  rw [bind_eq_error_iff, firstRefused_cons, read_eq_error_iff]
  simp only [read_eq_ok_iff, h, exists_and_right]

theorem assemble_eq_error_iff {flags : Flags} {texts : Parameter → String} {logsToStderr : Bool}
    {fault : Fault} :
    assemble flags texts logsToStderr = .error fault ↔
      FirstRefused flags texts fault Parameter.all := by
  refine firstRefused_bind fun base => firstRefused_bind fun intervalMs =>
    firstRefused_bind fun staleAfter => firstRefused_bind fun sequencing =>
      firstRefused_bind fun hiddenSections => ?_
  exact iff_of_false nofun not_firstRefused_nil

theorem switch?_eq_false_iff {text : String} :
    switch? text = some false ↔ compared text ∈ ["0", "false", "no", "off"] := by
  have hapart : ∀ word ∈ ["0", "false", "no", "off"], word ∉ ["1", "true", "yes", "on"] := by
    decide
  unfold switch?
  change (if compared text ∈ ["1", "true", "yes", "on"] then some true
    else if compared text ∈ ["0", "false", "no", "off"] then some false else none) = _ ↔ _
  split
  · rename_i hon
    exact iff_of_false nofun fun hoff => hapart _ hoff hon
  · split
    · exact iff_of_true rfl ‹_›
    · exact iff_of_false nofun ‹_›

theorem logs_eq_false_iff {environment : Environment} :
    logs environment = false ↔ Silenced environment := by
  have hlogs : logs environment = false ↔
      ∃ text, environment.given? "NFSMON_LOG_STDERR" = some text ∧ switch? text = some false := by
    rw [logs, Option.getD_eq_iff]
    simp [Option.bind_eq_some_iff]
  rw [hlogs]
  simp only [given?_eq_some_iff, switch?_eq_false_iff, and_assoc]
  refine exists_congr fun text => and_congr_right fun _ => and_iff_right_of_imp ?_
  -- no word is blank
  intro hword hblank
  rw [compared, hblank] at hword
  exact absurd hword (by decide)

theorem logs_congr {environment environment' : Environment}
    (h : Agree environment environment' "NFSMON_LOG_STDERR") :
    logs environment = logs environment' := by
  rw [logs, logs, given?_congr h]

/-! ## Precedence -/

theorem resolve_eq_ok_iff {flags : Flags} {environment : Environment} {config : Config} :
    resolve flags environment = .ok config ↔
      (∀ parameter : Parameter,
        parameter.Means (effective flags environment parameter) (config.value parameter)) ∧
      config.pages = flags.page ∧ (config.logsToStderr = false ↔ Silenced environment) := by
  have hlogs : config.logsToStderr = logs environment ↔
      (config.logsToStderr = false ↔ logs environment = false) := by
    cases config.logsToStderr <;> cases logs environment <;> simp
  rw [resolve_eq_assemble, assemble_eq_ok_iff, hlogs, logs_eq_false_iff]

theorem resolve_eq_error_iff {flags : Flags} {environment : Environment} {fault : Fault} :
    resolve flags environment = .error fault ↔
      FirstRefused flags (effective flags environment) fault Parameter.all := by
  rw [resolve_eq_assemble, assemble_eq_error_iff]

/-- Neither the choice of pages nor the variable of the log has a part in a fault. -/
theorem resolve_eq_error_iff_of_agree {flags : Flags} {environment environment' : Environment}
    {fault : Fault} (page : PageChoice)
    (h : ∀ parameter : Parameter, Agree environment environment' parameter.variableName) :
    resolve flags environment = .error fault ↔
      resolve { flags with page } environment' = .error fault := by
  have hread : ∀ parameter : Parameter,
      parameter.read { flags with page } = parameter.read flags := by
    intro parameter
    cases parameter <;> rfl
  have htexts : effective flags environment = effective { flags with page } environment' :=
    funext fun parameter =>
      (effective_congr fun _ => h parameter).trans (by cases parameter <;> rfl)
  simp only [resolve_eq_error_iff, htexts, FirstRefused, ← read_eq_error_iff, hread]

theorem exists_resolve_iff {flags : Flags} {environment : Environment} :
    (∃ config, resolve flags environment = .ok config) ↔ ∀ parameter : Parameter,
      ∃ value, parameter.Means (effective flags environment parameter) value := by
  simp only [resolve_eq_assemble, assemble_eq_ok_iff]
  constructor
  · rintro ⟨config, hmeans, _⟩ parameter
    exact ⟨config.value parameter, hmeans parameter⟩
  · intro h
    obtain ⟨base, hbase⟩ := h .url
    obtain ⟨intervalMs, hperiod⟩ := h .pollPeriod
    obtain ⟨staleAfter, hlimit⟩ := h .staleAfter
    obtain ⟨sequencing, hmode⟩ := h .sequencing
    obtain ⟨hiddenSections, hpolicy⟩ := h .hiddenSections
    refine ⟨⟨base, ⟨intervalMs, sequencing, staleAfter, hiddenSections⟩, flags.page,
      logs environment⟩, fun parameter => ?_, rfl, rfl⟩
    cases parameter with
    | url => exact hbase
    | pollPeriod => exact hperiod
    | staleAfter => exact hlimit
    | sequencing => exact hmode
    | hiddenSections => exact hpolicy

/-- Settings come into force exactly if each text in force means something for its parameter. They
then have these meanings, and the poll period is positive. Otherwise the fault is that of the first
parameter whose text means nothing; the choice of pages and the log never matter for it. Of the
environment, a setting depends on the values that are not blank, and of these on none that a flag
shadows. -/
theorem settings_by_precedence :
    (∀ flags environment, (∃ config, resolve flags environment = .ok config) ↔
      ∀ parameter : Parameter,
        ∃ value, parameter.Means (effective flags environment parameter) value) ∧
    (∀ flags environment config, resolve flags environment = .ok config ↔
      (∀ parameter : Parameter,
        parameter.Means (effective flags environment parameter) (config.value parameter)) ∧
      config.pages = flags.page ∧ (config.logsToStderr = false ↔ Silenced environment)) ∧
    (∀ flags environment config, resolve flags environment = .ok config →
      0 < config.poll.intervalMs) ∧
    (∀ flags environment fault, resolve flags environment = .error fault ↔
      FirstRefused flags (effective flags environment) fault Parameter.all) ∧
    (∀ flags environment environment' page,
      (∀ parameter : Parameter, Agree environment environment' parameter.variableName) →
      ∀ fault, resolve flags environment = .error fault ↔
        resolve { flags with page } environment' = .error fault) ∧
    ∀ flags environment environment',
      (∀ parameter : Parameter, parameter.flag? flags = none →
        Agree environment environment' parameter.variableName) →
      Agree environment environment' "NFSMON_LOG_STDERR" →
      resolve flags environment = resolve flags environment' := by
  refine ⟨fun _ _ => exists_resolve_iff, fun _ _ _ => resolve_eq_ok_iff, ?_,
    fun _ _ _ => resolve_eq_error_iff, ?_, ?_⟩
  · intro flags environment config h
    obtain ⟨hmeans, _⟩ := resolve_eq_ok_iff.mp h
    exact Nat.pos_of_ne_zero (hmeans .pollPeriod).2
  · exact fun flags environment environment' page hagree fault =>
      resolve_eq_error_iff_of_agree page hagree
  · intro flags environment environment' hagree hlogs
    have htexts : effective flags environment = effective flags environment' :=
      funext fun parameter => effective_congr (hagree parameter)
    rw [resolve_eq_assemble, resolve_eq_assemble, htexts, logs_congr hlogs]

def typed : Flags := ⟨some " nfs:/export", some 500, some 0, some "Compat ", some "LIVE", .stats⟩

/-- Each variable but that of the log is malformed. -/
def malformed : Environment := fun name =>
  if name = "NFSMON_LOG_STDERR" then none else some "?"

/-- Flags shadow malformed variables. Without flags the URL is refused, and also with another choice
of pages and a malformed switch for the log. -/
theorem malformed_variables_shadowed :
    resolve typed malformed = resolve typed (fun _ => none) ∧
      (∃ config, resolve typed malformed = .ok config ∧ 0 < config.poll.intervalMs) ∧
      ∃ fault, resolve .none malformed = .error fault ∧
        resolve { Flags.none with page := .clients } (fun _ => some "?") = .error fault := by
  obtain ⟨_, _, hpositive, _, hfault, hshadowed⟩ := settings_by_precedence
  refine ⟨?_, ?_, ?_⟩
  · refine hshadowed typed malformed _ (fun parameter hflag => ?_) (fun text _ => Iff.rfl)
    cases parameter <;> exact nomatch hflag
  · have hread : resolve typed malformed =
        .ok ⟨⟨"nfs", none, false, ["export"], none, none⟩, ⟨500, .unordered, 0, .reshow⟩, .stats,
          true⟩ := by rfl
    exact ⟨_, hread, hpositive _ _ _ hread⟩
  · have hrefused : resolve .none malformed = .error (.invalid .url "?" (.url .relative)) := by rfl
    refine ⟨_, hrefused, (hfault _ _ _ _ (fun parameter text _ => ?_) _).mp hrefused⟩
    cases parameter <;> exact Iff.rfl

end Config
end NfsWatch
