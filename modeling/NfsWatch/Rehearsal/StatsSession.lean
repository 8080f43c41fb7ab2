import NfsWatch.Page.Stats
import NfsWatch.Rehearsal.Stage

/-!
# Rehearsing the stats page

The operator lets time pass while the page takes note of every change, or drops the page.
-/

namespace NfsWatch.Rehearsal

inductive StatsStep
  | settle (ms : Nat)
  | drop

structure StatsSession where
  now : Nat
  page : Option StatsPage
  stage : Stage
  /-- The changes that the page took note of since the report before. -/
  changes : List StatsChange

structure StatsReport where
  t : Nat
  /-- The feeds that changed since the report before, each once, by name. -/
  changes : List String
  page : Option StatsPage
  counts : Table Nat
  log : List LogEntry

namespace StatsSession

def start (settings : PollSettings) (script : Script) : StatsSession :=
  ⟨0, some (.start settings), ⟨script, [.pageOpened "stats"]⟩, []⟩

structure Acting where
  page : StatsPage
  stage : Stage
  changes : List StatsChange

/-- All loops do what is due, and then the page takes note of what they published. -/
def runAt (now : Nat) (acting : Acting) : Acting :=
  let (filesystem, stage) := LiveLoop.runAt now (acting.page.filesystem, acting.stage)
  let (nfs4, stage) := LiveLoop.runAt now (acting.page.nfs4, stage)
  let (nfs3, stage) := LiveLoop.runAt now (acting.page.nfs3, stage)
  let page : StatsPage := { filesystem, nfs4, nfs3 }
  ⟨page.acknowledge, stage, acting.changes ++ page.pending⟩

def nextDue (acting : Acting) : Option Nat :=
  Clock.earliest acting.page.filesystem.nextDue
    (Clock.earliest acting.page.nfs4.nextDue acting.page.nfs3.nextDue)

def act (session : StatsSession) : StatsStep → StatsSession
  | .drop => { session with page := none }
  | .settle ms =>
      match session.page with
      | none => { session with now := session.now + ms }
      | some page =>
          let first := runAt session.now ⟨page, session.stage, session.changes⟩
          let (now, acting) := Clock.advance nextDue runAt (fun _ => false)
            (session.now + ms) session.now first
          ⟨now, some acting.page, acting.stage, acting.changes⟩

def step (session : StatsSession) (action : StatsStep) : StatsSession × StatsReport :=
  let after := session.act action
  ({ after with stage := { after.stage with log := [] }, changes := [] },
    { t := after.now
      changes := (Table.ofList (after.changes.map (fun change => (change.name, ())))).keys
      page := after.page
      counts := after.stage.script.counts
      log := after.stage.log })

end StatsSession

end NfsWatch.Rehearsal
