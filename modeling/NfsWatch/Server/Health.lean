import NfsWatch.Decode

/-!
# Health — the state of a device or replica and its colour

The server names states freely; four names are known, any other is kept as it is. The colour is
a function of the state.
-/

namespace NfsWatch

inductive HealthState
  | healthy
  | restoring
  | missing
  | dead
  /-- A state by a name that is none of the four above. -/
  | other (name : String)
deriving DecidableEq, Repr

namespace HealthState

/-- The state of a record that does not tell. -/
def unknown : HealthState := .other "unknown"

instance : Inhabited HealthState := ⟨unknown⟩

def ofName (name : String) : HealthState :=
  if name = "healthy" then .healthy
  else if name = "restoring" then .restoring
  else if name = "missing" then .missing
  else if name = "dead" then .dead
  else .other name

def name : HealthState → String
  | .healthy => "healthy"
  | .restoring => "restoring"
  | .missing => "missing"
  | .dead => "dead"
  | .other name => name

def isKnown : HealthState → Bool
  | .other _ => false
  | _ => true

def decode (v : Json) : Decoded HealthState := (Decode.text v).map ofName

def encode (state : HealthState) : Json := .str state.name

end HealthState

inductive StateColor
  | green
  | yellow
  | orange
  | red
deriving DecidableEq, Repr, Inhabited

namespace StateColor

def name : StateColor → String
  | .green => "green"
  | .yellow => "yellow"
  | .orange => "orange"
  | .red => "red"

def decode : Json → Decoded StateColor :=
  Decode.variant [("green", .green), ("yellow", .yellow), ("orange", .orange), ("red", .red)]

def encode (color : StateColor) : Json := .str color.name

end StateColor

/-- The colour of a state: red for a dead one and for one that is not known. -/
def HealthState.color : HealthState → StateColor
  | .healthy => .green
  | .restoring => .yellow
  | .missing => .orange
  | .dead => .red
  | .other _ => .red

end NfsWatch
