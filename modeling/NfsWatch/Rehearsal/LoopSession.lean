import NfsWatch.Rehearsal.Stage

/-!
# Rehearsing one loop

The operator of a single loop may let time pass, send input, wait for a change, cancel the loop or
drop it. A second subscriber looks at the loop after each step. A dropped loop is gone once time
passes, and until then it still shows its last feed.

A cancelled loop is gone at once. It may have met the request to stop only after some of what was
ready at that instant; the rehearsal takes the end at which nothing comes before it.
-/

namespace NfsWatch.Rehearsal

inductive LoopStep (C : Type)
  | settle (ms : Nat)
  | command (command : C)
  /-- Tell the loop to stop. -/
  | cancel
  /-- Discard the loop. -/
  | drop
  /-- Wait for a change, at most so many milliseconds. -/
  | changedWithin (ms : Nat)

structure LoopSession (P V C : Type) where
  now : Nat
  live : Option (LiveLoop P V C)
  /-- What was displayed last. -/
  feed : Feed V
  closed : Bool
  published : Nat
  /-- Notifications that the second subscriber has seen. -/
  looked : Nat
  reported : Nat
  stage : Stage

structure LoopReport (V : Type) where
  t : Nat
  result : Option Bool
  /-- Whether a change was published since the report before. -/
  notified : Bool
  closed : Bool
  feed : Feed V
  /-- The requests since the report before. -/
  requests : List Endpoint
  log : List LogEntry

namespace LoopSession

variable {P V C : Type}

def start (monitor : Monitor P V C) (settings : PollSettings) (script : Script) :
    LoopSession P V C :=
  let live := LiveLoop.spawn monitor settings
  { now := 0, live := some live, feed := live.feed, closed := false, published := 0, looked := 0
    reported := 0, stage := ⟨script, []⟩ }

/-- The loop after it ran, as its subscribers see it. -/
def observe (session : LoopSession P V C) (live : LiveLoop P V C) (stage : Stage) :
    LoopSession P V C :=
  { session with live := some live, feed := live.feed, published := live.published, stage }

/-- The session once its loop has stopped. -/
def ended (session : LoopSession P V C) (last : LiveLoop P V C) (stage : Stage) :
    LoopSession P V C :=
  { session.observe last stage with live := none, closed := true }

def runFor (session : LoopSession P V C) (live : LiveLoop P V C) (ms : Nat)
    (done : LiveLoop P V C → Bool) : LoopSession P V C :=
  let first := LiveLoop.runAt session.now (live, session.stage)
  let (now, live, stage) := Clock.advance (fun acting => LiveLoop.nextDue acting.1)
    (fun now acting => LiveLoop.runAt now acting) (fun acting => done acting.1)
    (session.now + ms) session.now first
  { session.observe live stage with now }

def act (session : LoopSession P V C) : LoopStep C → LoopSession P V C × Option Bool
  | .settle ms =>
      match session.live with
      | none => ({ session with now := session.now + ms, closed := true }, none)
      | some live => (session.runFor live ms (fun _ => false), none)
  | .command command =>
      match session.live with
      | none => (session, none)
      | some live =>
          let (live, queued) := live.send command
          ({ session with live := some live }, some queued)
  | .cancel =>
      match session.live with
      | none => (session, none)
      | some live =>
          -- the request to stop is met before anything else that is ready now
          (session.ended live (LiveLoop.stop session.now (live, session.stage)), none)
  | .drop => ({ session with live := none }, none)
  | .changedWithin ms =>
      match session.live with
      | none => (session, none)
      | some live =>
          if live.hasUnseen then
            ({ session with live := some live.acknowledge }, some true)
          else
            let after := session.runFor live ms LiveLoop.hasUnseen
            match after.live with
            | none => (after, none)
            | some live =>
                if live.hasUnseen then
                  ({ after with live := some live.acknowledge }, some true)
                else (after, none)

/-- One step, and what the second subscriber finds after it. -/
def step (session : LoopSession P V C) (action : LoopStep C) : LoopSession P V C × LoopReport V :=
  let (after, result) := session.act action
  let requests := after.stage.script.requests
  ({ after with
      looked := after.published
      reported := requests.length
      stage := { after.stage with log := [] } },
    { t := after.now
      result
      notified := !after.closed && after.looked < after.published
      closed := after.closed
      feed := after.feed
      requests := requests.drop after.reported
      log := after.stage.log })

end LoopSession

end NfsWatch.Rehearsal
