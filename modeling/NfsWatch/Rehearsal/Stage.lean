import NfsWatch.Page.Scope
import NfsWatch.Rehearsal.Clock
import NfsWatch.Rehearsal.Script

/-!
# Stage — live loops at one instant of a rehearsal

A rehearsal runs live loops against a script on virtual time. The stage is what its loops share:
the script and the log. At each instant a loop does all that is due: it begins if it has not,
handles the operator input that is waiting, ticks, and takes the responses that have arrived, in
the order in which they were requested. A response may cause follow-up requests and these may be
answered at once, so arrived responses are taken twice; follow-up responses cause no further
requests.
-/

namespace NfsWatch

/-- What the loops of a rehearsal share. -/
structure Stage where
  script : Script
  /-- What was logged since it was last looked at. -/
  log : List LogEntry
deriving Inhabited

namespace Stage

def record (stage : Stage) (entries : List LogEntry) : Stage :=
  { stage with log := stage.log ++ entries }

def issue (now : Nat) (stage : Stage) (request : Request) : Stage × InFlight :=
  let (response, script) := stage.script.fetch request.endpoint
  ({ stage with script }, ⟨now + response.delayMs, request, response.result⟩)

def issueAll (now : Nat) (stage : Stage) : List Request → Stage × List InFlight
  | [] => (stage, [])
  | request :: rest =>
      let (stage, first) := stage.issue now request
      let (stage, others) := issueAll now stage rest
      (stage, first :: others)

end Stage

namespace LiveLoop

variable {P V C : Type}

abbrev OnStage (P V C : Type) := LiveLoop P V C × Stage

/-- An event happens to the loop at `now`; the requests that it causes are issued. -/
def perform (now : Nat) (acting : OnStage P V C) (event : Event C) : OnStage P V C :=
  let (live, effect) := acting.1.handle event
  let (stage, issued) := (acting.2.record effect.log).issueAll now effect.requests
  ({ live with inFlight := live.inFlight ++ issued }, stage)

def begin (now : Nat) (acting : OnStage P V C) : OnStage P V C :=
  match acting.1.nextTick with
  | some _ => acting
  | none =>
      let live := acting.1
      ({ live with nextTick := some now },
        acting.2.record [.loopStarted live.monitor.name live.monitor.endpoint
          live.settings.intervalMs live.settings.sequencing])

def handleCommands (now : Nat) (acting : OnStage P V C) : OnStage P V C :=
  let commands := acting.1.commands
  commands.foldl (fun acting command => perform now acting (.command command))
    ({ acting.1 with commands := [] }, acting.2)

def tickIfDue (now : Nat) (acting : OnStage P V C) : OnStage P V C :=
  match acting.1.nextTick with
  | none => acting
  | some next =>
      if next ≤ now then
        perform now
          ({ acting.1 with nextTick := some (next + acting.1.settings.intervalMs) }, acting.2) .tick
      else acting

/-- The responses that have arrived are taken, in the order of their requests. -/
def takeArrived (now : Nat) (acting : OnStage P V C) : OnStage P V C :=
  let (arrived, waiting) := acting.1.inFlight.partition (fun flight => flight.dueMs ≤ now)
  arrived.foldl (fun acting flight => perform now acting (flight.request.completed flight.result))
    ({ acting.1 with inFlight := waiting }, acting.2)

/-- All that is due at `now` is done. -/
def runAt (now : Nat) (acting : OnStage P V C) : OnStage P V C :=
  takeArrived now (takeArrived now (tickIfDue now (handleCommands now (begin now acting))))

def nextDue (live : LiveLoop P V C) : Option Nat :=
  live.inFlight.foldl (fun due flight => Clock.earliest due (some flight.dueMs)) live.nextTick

def stop (now : Nat) (acting : OnStage P V C) : Stage :=
  let (live, stage) := begin now acting
  stage.record [.loopStopped live.monitor.name live.state.sequencer.issued]

end LiveLoop

namespace Scope

variable {K P V C : Type}

def runAt (now : Nat) (scope : Scope K P V C) (stage : Stage) : Scope K P V C × Stage :=
  match scope.current with
  | none => (scope, stage)
  | some (key, live) =>
      let (live, stage) := LiveLoop.runAt now (live, stage)
      (⟨some (key, live)⟩, stage)

def nextDue (scope : Scope K P V C) : Option Nat := scope.live.bind LiveLoop.nextDue

end Scope

end NfsWatch
