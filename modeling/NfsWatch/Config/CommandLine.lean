import NfsWatch.Config.Flags
import NfsWatch.Number.IntegerText

/-!
# CommandLine — the arguments of the program

Every option is long and takes one value, attached as `--option=value` or in the next argument.
Arguments are taken from left to right. A value is checked when the next option begins, or at the
end; until then it is pending, and an argument that is not known at all is reported first.

A value in an argument of its own does not begin with `-`, unless it is `-` alone. After `--` there
are only operands, and the program has none.
-/

namespace NfsWatch.CommandLine

inductive Opt
  | url
  | pollMs
  | staleAfter
  | sequencing
  | hiddenSections
  | page
deriving DecidableEq, Repr, Inhabited

def Opt.name : Opt → String
  | .url => "url"
  | .pollMs => "poll-ms"
  | .staleAfter => "stale-after"
  | .sequencing => "sequencing"
  | .hiddenSections => "hidden-sections"
  | .page => "page"

def Opt.ofName? (name : String) : Option Opt :=
  [url, pollMs, staleAfter, sequencing, hiddenSections, page].find? (·.name == name)

inductive Fault
  | help
  /-- An argument that is neither an option nor the value of one. -/
  | unknownArgument
  /-- An option without value, or with one that is none of the names it knows. -/
  | invalidValue
  | invalidNumber
  | repeatedOption
  | unwantedValue
deriving DecidableEq, Repr, Inhabited

def Fault.message : Fault → String
  | .help => "help requested"
  | .unknownArgument => "unexpected argument"
  | .invalidValue => "missing or invalid value"
  | .invalidNumber => "invalid number"
  | .repeatedOption => "option given more than once"
  | .unwantedValue => "unexpected value"

structure State where
  flags : Flags
  given : List Opt
  /-- The option that began last, and its value once it has come. -/
  pending : Option (Opt × Option String)
  /-- Whether only operands may follow. -/
  operandsOnly : Bool
deriving Inhabited

def State.start : State := ⟨.none, [], none, false⟩

def word64 (value : String) : Except Fault UInt64 :=
  match IntegerText.read IntegerText.largest64 value with
  | .error _ => .error .invalidNumber
  | .ok n => .ok (UInt64.ofNat n)

/-- A number as the staleness limit takes it. A minus sign is read too, and the range leaves only
zero behind it. -/
def word32 (value : String) : Except Fault UInt32 :=
  match value.toList with
  | '-' :: digit :: digits =>
      if (digit :: digits).all (· == '0') then .ok 0 else .error .invalidNumber
  | cs =>
      match IntegerText.readChars IntegerText.largest32 cs with
      | .error _ => .error .invalidNumber
      | .ok n => .ok (UInt32.ofNat n)

def assign (flags : Flags) (opt : Opt) (value : String) : Except Fault Flags :=
  match opt with
  | .url => .ok { flags with url := some value }
  | .pollMs => (word64 value).map (fun ms => { flags with pollMs := some ms })
  | .staleAfter => (word32 value).map (fun failures => { flags with staleAfter := some failures })
  | .sequencing => .ok { flags with sequencing := some value }
  | .hiddenSections => .ok { flags with hiddenSections := some value }
  | .page =>
      match PageChoice.ofName? value with
      | none => .error .invalidValue
      | some page => .ok { flags with page }

/-- Takes an option with its value, which must be the first of it. -/
def State.take (state : State) (opt : Opt) (value : String) : Except Fault State := do
  if opt ∈ state.given then throw .repeatedOption
  let flags ← assign state.flags opt value
  return { state with flags, given := opt :: state.given }

def State.settle (state : State) : Except Fault State :=
  match state.pending with
  | none => .ok state
  | some (_, none) => .error .invalidValue
  | some (opt, some value) => State.take { state with pending := none } opt value

def splitAttached (cs : List Char) : String × Option String :=
  (String.ofList (cs.takeWhile (· != '=')),
    match cs.dropWhile (· != '=') with
    | _ :: value => some (String.ofList value)
    | [] => none)

def State.long (state : State) (name : String) (attached : Option String) : Except Fault State :=
  if name = "help" then
    match attached with
    | some _ => .error .unwantedValue
    -- what is wrong with the option before it is reported first
    | none => state.settle >>= fun _ => .error .help
  else
    match Opt.ofName? name, attached with
    | none, _ => .error .unknownArgument
    | some opt, some value => state.settle >>= fun settled => settled.take opt value
    | some opt, none =>
        state.settle.map (fun settled => { settled with pending := some (opt, none) })

def State.step (state : State) (argument : String) : Except Fault State :=
  if state.operandsOnly then .error .unknownArgument
  else
    match argument.toList with
    | ['-', '-'] => .ok { state with operandsOnly := true }
    | '-' :: '-' :: rest =>
        let (name, attached) := splitAttached rest
        state.long name attached
    | '-' :: 'h' :: _ => state.settle >>= fun _ => .error .help
    | '-' :: _ :: _ => .error .unknownArgument
    | _ =>
        match state.pending with
        | some (opt, none) => .ok { state with pending := some (opt, some argument) }
        | _ => .error .unknownArgument

def parse (arguments : List String) : Except Fault Flags := do
  let state ← arguments.foldlM State.step State.start
  let state ← state.settle
  return state.flags

end NfsWatch.CommandLine
