import NfsWatch.Text.Blank

/-!
# Sequencer — tick numbers and overtaken responses

Each request of a feed carries the number of its tick. Ordered sequencing drops a response once a
newer one has been accepted; unordered sequencing accepts every response as it lands.
-/

namespace NfsWatch

inductive Sequencing
  /-- A response older than the newest accepted one is dropped. -/
  | ordered
  /-- Every response is accepted, and the last one to land wins. -/
  | unordered
deriving DecidableEq, Repr, Inhabited

namespace Sequencing

def name : Sequencing → String
  | .ordered => "ordered"
  | .unordered => "unordered"

/-- The mode that a text typed by the operator stands for; blanks around it and the case of its
letters do not count. An unknown text is refused in the form in which it was compared. -/
def ofText (text : String) : Except String Sequencing :=
  let typed := Text.lower (Text.trim text)
  if typed ∈ ["ordered", "sequenced"] then .ok .ordered
  else if typed ∈ ["unordered", "compat"] then .ok .unordered
  else .error s!"Unknown sequencing mode: {typed}"

end Sequencing

structure TickSequencer where
  mode : Sequencing
  /-- The last tick number handed out; the first one is 1. -/
  issued : Nat
  accepted : Option Nat
deriving DecidableEq, Inhabited

namespace TickSequencer

def start (mode : Sequencing) : TickSequencer := ⟨mode, 0, none⟩

def issue (sequencer : TickSequencer) : TickSequencer :=
  { sequencer with issued := sequencer.issued + 1 }

/-- Whether a response as new as `tick` or newer was accepted, where the order counts. -/
def isSuperseded (sequencer : TickSequencer) (tick : Nat) : Bool :=
  match sequencer.mode, sequencer.accepted with
  | .ordered, some accepted => tick ≤ accepted
  | _, _ => false

/-- Accepts the response of a tick unless it is superseded, and tells which it was. -/
def accept (sequencer : TickSequencer) (tick : Nat) : TickSequencer × Bool :=
  if sequencer.isSuperseded tick then (sequencer, false)
  else ({ sequencer with accepted := some tick }, true)

end TickSequencer

end NfsWatch
