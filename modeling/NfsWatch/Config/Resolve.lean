import NfsWatch.Config.Flags
import NfsWatch.Poll.Monitor
import NfsWatch.Url.Basic

/-!
# Config — the settings in force

A flag wins over the environment, and the environment over the default; an environment variable
that is blank counts as not set, a blank flag does not. Settings are resolved in a fixed order, and
the first one that does not hold is reported with the text it was given, so a variable that a flag
overrides is never looked at.
-/

namespace NfsWatch

abbrev Environment := String → Option String

/-- The value of a variable, unless it is blank. -/
def Environment.given? (environment : Environment) (name : String) : Option String :=
  (environment name).filter (fun value => !Text.isBlankText value)

namespace Config

inductive Setting
  | url
  | pollFlag
  | pollVariable
  /-- The staleness limit from the environment; a flag always holds. -/
  | staleAfter
  | sequencing
  | hiddenSections
deriving DecidableEq, Repr, Inhabited

def Setting.name : Setting → String
  | .url => "url"
  | .pollFlag => "--poll-ms"
  | .pollVariable => "NFSMON_POLL_MS"
  | .staleAfter => "NFSMON_STALE_AFTER"
  | .sequencing => "sequencing"
  | .hiddenSections => "hidden sections"

inductive Reason
  | url (fault : Url.Fault)
  | number (fault : IntegerText.Fault)
  | zeroPeriod
  | unknownName (words : String)
deriving DecidableEq, Repr, Inhabited

def Reason.message : Reason → String
  | .url fault => fault.message
  | .number fault => fault.message
  | .zeroPeriod => "poll period must be positive"
  | .unknownName words => words

inductive Fault
  | invalid (setting : Setting) (value : String) (reason : Reason)
  /-- Nothing can be appended to the base URL. -/
  | pathlessUrl (value : String)
deriving DecidableEq, Repr, Inhabited

def Fault.message : Fault → String
  | .invalid setting value reason => s!"invalid {setting.name} value '{value}': {reason.message}"
  | .pathlessUrl value => s!"base url cannot carry a path: {value}"

/-- The base URL that a text gives; blanks around it do not count. -/
def baseUrl (value : String) : Except Fault Url :=
  match Url.parse (Text.trim value) with
  | .error fault => .error (.invalid .url value (.url fault))
  | .ok .pathless => .error (.pathlessUrl value)
  | .ok (.base url) => .ok url

/-- The number that a text gives, at most `largest`; blanks around it do not count. -/
def number (setting : Setting) (largest : Nat) (value : String) : Except Fault Nat :=
  (IntegerText.read largest (Text.trim value)).mapError (fun fault =>
    .invalid setting value (.number fault))

def period (setting : Setting) (value : String) : Except Fault Nat := do
  let ms ← number setting IntegerText.largest64 value
  if ms = 0 then throw (.invalid setting value .zeroPeriod)
  return ms

def choice {α : Type} (setting : Setting) (ofText : String → Except String α) (standard : α) :
    Option String → Except Fault α
  | none => .ok standard
  | some value => (ofText value).mapError (fun words => .invalid setting value (.unknownName words))

/-- The meaning of a switch in the environment, if it is one of the usual words. -/
def switch? (value : String) : Option Bool :=
  let word := Text.lower (Text.trim value)
  if word ∈ ["1", "true", "yes", "on"] then some true
  else if word ∈ ["0", "false", "no", "off"] then some false
  else none

def standardUrl : String := "http://127.0.0.1:8080"

end Config

structure Config where
  base : Url
  poll : PollSettings
  pages : PageChoice
  /-- Whether the log is written to standard error. -/
  logsToStderr : Bool
deriving DecidableEq, Inhabited

namespace Config

def resolvePeriod (flag : Option UInt64) (given : Option String) : Except Fault Nat :=
  match flag, given with
  -- the flag is written out again, so that one rule refuses a period of zero
  | some ms, _ => period .pollFlag (IntegerText.write ms.toNat)
  | none, some value => period .pollVariable value
  | none, none => .ok PollSettings.standard.intervalMs

def resolveStaleAfter (flag : Option UInt32) (given : Option String) : Except Fault Nat :=
  match flag, given with
  | some failures, _ => .ok failures.toNat
  | none, some value => number .staleAfter IntegerText.largest32 value
  | none, none => .ok PollSettings.standard.staleAfter

def resolve (flags : Flags) (environment : Environment) : Except Fault Config := do
  let base ← baseUrl ((flags.url <|> environment.given? "NFSMON_URL").getD standardUrl)
  let intervalMs ← resolvePeriod flags.pollMs (environment.given? "NFSMON_POLL_MS")
  let staleAfter ← resolveStaleAfter flags.staleAfter (environment.given? "NFSMON_STALE_AFTER")
  let sequencing ← choice .sequencing Sequencing.ofText PollSettings.standard.sequencing
    (flags.sequencing <|> environment.given? "NFSMON_SEQUENCING")
  let hiddenSections ← choice .hiddenSections HiddenPolicy.ofText
    PollSettings.standard.hiddenSections
    (flags.hiddenSections <|> environment.given? "NFSMON_HIDDEN_SECTIONS")
  return {
    base
    poll := { intervalMs, sequencing, staleAfter, hiddenSections }
    pages := flags.page
    logsToStderr := ((environment.given? "NFSMON_LOG_STDERR").bind switch?).getD true }

end Config

end NfsWatch
