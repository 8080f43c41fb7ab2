import NfsWatch.Poll.Loop

/-!
# Live loops — a poll loop with its subscriber and its agenda

A live loop is a poll loop in the hands of its owner. Beside the state of the loop it holds what
is still to come (its next tick, the requests on their way, the operator input not yet handled)
and how much of what it published its owner has seen. Discarding a live loop discards all of
that, so a discarded loop can neither issue a request nor publish again.
-/

namespace NfsWatch

/-- A request on its way: the response is settled when the request is issued, and arrives at
`dueMs`. -/
structure InFlight where
  dueMs : Nat
  request : Request
  result : Fetched Json
deriving Inhabited

structure LiveLoop (P V C : Type) where
  monitor : Monitor P V C
  settings : PollSettings
  state : PollLoop V
  /-- When the next tick is due; nothing until the loop first runs. -/
  nextTick : Option Nat
  /-- The requests on their way, in the order of issue. -/
  inFlight : List InFlight
  /-- Operator input not yet handled, oldest first. -/
  commands : List C
  /-- How often the loop has notified its subscribers. -/
  published : Nat
  seen : Nat

namespace LiveLoop

variable {P V C : Type}

def commandCapacity : Nat := 16

def spawn (monitor : Monitor P V C) (settings : PollSettings) : LiveLoop P V C where
  monitor := monitor
  settings := settings
  state := .start monitor settings
  nextTick := none
  inFlight := []
  commands := []
  published := 0
  seen := 0

def feed (live : LiveLoop P V C) : Feed V := live.state.feed

def view (live : LiveLoop P V C) : V := live.state.feed.view

def hasUnseen (live : LiveLoop P V C) : Bool := live.seen < live.published

def acknowledge (live : LiveLoop P V C) : LiveLoop P V C := { live with seen := live.published }

/-- Queues operator input; refused when too much is waiting. -/
def send (live : LiveLoop P V C) (command : C) : LiveLoop P V C × Bool :=
  if live.commands.length < commandCapacity then
    ({ live with commands := live.commands ++ [command] }, true)
  else (live, false)

def handle (live : LiveLoop P V C) (event : Event C) : LiveLoop P V C × Effect V :=
  let effect := PollLoop.step live.monitor live.settings live.state event
  ({ live with
      state := effect.loop
      published := live.published + (if effect.notified then 1 else 0) }, effect)

end LiveLoop

end NfsWatch
