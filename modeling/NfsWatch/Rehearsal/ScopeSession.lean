import NfsWatch.Page.Clients
import NfsWatch.Rehearsal.Stage

/-!
# Rehearsing a scope of client summaries

The operator moves the scope, sends input to the summary it holds, lets time pass, or waits for a
change of the summary. Without a target there is no loop, and waiting only passes time.
-/

namespace NfsWatch.Rehearsal

inductive ScopeStep
  | retarget (client : Option String)
  | command (command : ClientSummary.Command)
  | settle (ms : Nat)
  | changedWithin (ms : Nat)

structure ScopeSession where
  now : Nat
  settings : PollSettings
  scope : ClientSummary.Scoped
  stage : Stage

structure ScopeReport where
  t : Nat
  result : Option Bool
  feed : Option (Feed ClientSummary.View)
  counts : Table Nat
  log : List LogEntry

namespace ScopeSession

def start (settings : PollSettings) (script : Script) : ScopeSession :=
  ⟨0, settings, .empty, ⟨script, []⟩⟩

/-- Runs the loop of the scope from now on until it is done or the time is up. -/
def runFor (session : ScopeSession) (ms : Nat) (done : ClientSummary.Scoped → Bool) :
    ScopeSession :=
  let first := session.scope.runAt session.now session.stage
  let (now, scope, stage) := Clock.advance (fun acting => acting.1.nextDue)
    (fun now (scope, stage) => scope.runAt now stage) (fun acting => done acting.1)
    (session.now + ms) session.now first
  { session with now, scope, stage }

def act (session : ScopeSession) : ScopeStep → ScopeSession × Option Bool
  | .retarget client =>
      let (scope, moved) := session.scope.retarget client (ClientSummary.spawn session.settings)
      ({ session with scope }, some moved)
  | .command command =>
      if session.scope.live.isNone then (session, none)
      else
        let (scope, queued) := session.scope.send command
        ({ session with scope }, some queued)
  | .settle ms => (session.runFor ms (fun _ => false), none)
  | .changedWithin ms =>
      let after := if session.scope.hasUnseen then session else session.runFor ms Scope.hasUnseen
      if after.scope.hasUnseen then
        ({ after with scope := after.scope.acknowledge }, some true)
      else (after, none)

def step (session : ScopeSession) (action : ScopeStep) : ScopeSession × ScopeReport :=
  let (after, result) := session.act action
  ({ after with stage := { after.stage with log := [] } },
    { t := after.now
      result
      feed := after.scope.live.map LiveLoop.feed
      counts := after.stage.script.counts
      log := after.stage.log })

end ScopeSession

end NfsWatch.Rehearsal
