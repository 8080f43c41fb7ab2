import NfsWatch.Poll.Feed
import NfsWatch.Poll.Log
import NfsWatch.Poll.Monitor

/-!
# Poll loop — one feed as a state machine

A poll loop owns one feed. It sees four kinds of events: the tick of its clock, the completion of
a request that a tick issued, the completion of a follow-up request, and operator input. `step`
gives for each event the loop afterwards and its effects: whether subscribers are notified, which
requests are issued and what is logged. Nothing else changes a loop, so a run of the loop is the
fold of `step` over its events, in whatever order they come.

Three rules hold the responses apart. A response that a newer one has overtaken is dropped, as
sequencing says. Follow-up requests carry the number of their batch, and only those of the latest
batch are applied. A failure leaves the view alone and only touches the freshness.
-/

namespace NfsWatch

structure PollLoop (V : Type) where
  feed : Feed V
  sequencer : TickSequencer
  /-- The number of the latest batch of follow-up requests; no batch has the number 0. -/
  batch : Nat
deriving Inhabited

/-- A request that a loop issues, with what it needs to place the response. -/
inductive Request
  | primary (tick : Nat) (endpoint : Endpoint)
  | followUp (batch : Nat) (endpoint : Endpoint)
deriving DecidableEq, Repr, Inhabited

def Request.endpoint : Request → Endpoint
  | .primary _ endpoint => endpoint
  | .followUp _ endpoint => endpoint

inductive Event (C : Type)
  | tick
  | primary (tick : Nat) (result : Fetched Json)
  | followUp (batch : Nat) (endpoint : Endpoint) (result : Fetched Json)
  | command (command : C)

def Request.completed {C : Type} (result : Fetched Json) : Request → Event C
  | .primary tick _ => .primary tick result
  | .followUp batch endpoint => .followUp batch endpoint result

structure Effect (V : Type) where
  loop : PollLoop V
  notified : Bool
  requests : List Request
  log : List LogEntry
deriving Inhabited

namespace PollLoop

variable {P V C : Type} (monitor : Monitor P V C) (settings : PollSettings)

def start : PollLoop V := ⟨⟨monitor.initial, .start⟩, .start settings.sequencing, 0⟩

def onTick (loop : PollLoop V) : Effect V :=
  let sequencer := loop.sequencer.issue
  { loop := { loop with sequencer }
    notified := false
    requests := [.primary sequencer.issued monitor.endpoint]
    log := [] }

/-- A response is folded into the view. A batch that it starts supersedes the one before. -/
def onPayload (loop : PollLoop V) (tick : Nat) (payload : P) : Effect V :=
  let applied := monitor.apply loop.feed.view payload
  let (health, recovered) := loop.feed.health.recordSuccess tick
  let batch := if applied.followUps.isSome then loop.batch + 1 else loop.batch
  { loop := ⟨⟨applied.view, health⟩, (loop.sequencer.accept tick).1, batch⟩
    notified := applied.changed || recovered
    requests := (applied.followUps.getD []).map (.followUp batch)
    log := if recovered then [.recovered monitor.name tick] else [] }

/-- A failure is counted. The first one in a row is a warning, as is the one that makes the feed
stale. -/
def onFailure (loop : PollLoop V) (error : FetchError) : Effect V :=
  let (health, flipped) := loop.feed.health.recordFailure error settings.staleAfter
  { loop := { loop with feed := { loop.feed with health } }
    notified := flipped
    requests := []
    log := [
      if flipped && health.stale then .becameStale monitor.name health.failures error
      else if health.failures = 1 then .fetchFailed monitor.name error
      else .fetchFailedAgain monitor.name health.failures error] }

/-- The request of a tick completed: dropped if it was overtaken, and otherwise applied or counted
as a failure. A response that does not decode is a failure like one that did not arrive. -/
def onPrimary (loop : PollLoop V) (tick : Nat) (result : Fetched Json) : Effect V :=
  if loop.sequencer.isSuperseded tick then
    { loop := loop, notified := false, requests := []
      log := [.superseded monitor.name tick (loop.sequencer.accepted.getD 0)] }
  else
    match result.bind (monitor.endpoint.decodeAs monitor.decode) with
    | .ok payload => onPayload monitor loop tick payload
    | .error error => onFailure monitor settings loop error

/-- A follow-up request completed: dropped if its batch was superseded, and otherwise folded into
the view. A failure is only logged. -/
def onFollowUp (loop : PollLoop V) (batch : Nat) (endpoint : Endpoint) (result : Fetched Json) :
    Effect V :=
  if batch ≠ loop.batch then
    { loop := loop, notified := false, requests := []
      log := [.followUpDiscarded monitor.name endpoint] }
  else
    match result.bind (monitor.applyFollowUp loop.feed.view endpoint) with
    | .ok (view, changed) =>
        { loop := { loop with feed := { loop.feed with view } }
          notified := changed, requests := [], log := [] }
    | .error error =>
        { loop := loop, notified := false, requests := []
          log := [.followUpFailed monitor.name error] }

def onCommand (loop : PollLoop V) (command : C) : Effect V :=
  let (view, changed) := monitor.command loop.feed.view command
  { loop := { loop with feed := { loop.feed with view } }
    notified := changed, requests := [], log := [] }

def step (loop : PollLoop V) : Event C → Effect V
  | .tick => onTick monitor loop
  | .primary tick result => onPrimary monitor settings loop tick result
  | .followUp batch endpoint result => onFollowUp monitor loop batch endpoint result
  | .command command => onCommand monitor loop command

def run (loop : PollLoop V) (events : List (Event C)) : PollLoop V :=
  events.foldl (fun loop event => (step monitor settings loop event).loop) loop

end PollLoop

end NfsWatch
