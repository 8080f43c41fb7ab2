import NfsWatch.Page.Clients
import NfsWatch.Rehearsal.Stage

/-!
# Rehearsing the clients page

While the operator lets time settle, the page takes note of every notification as soon as all
loops have done what is due at that instant, and new loops run at the same instant. The list of
clients moves the summary and the summary moves the details, so after three rounds nothing is
left to do. While time merely passes, the page takes note of nothing.
-/

namespace NfsWatch.Rehearsal

inductive ClientsStep
  /-- Let so many milliseconds pass while the page follows. -/
  | settle (ms : Nat)
  /-- Let so many milliseconds pass without the page. -/
  | wait (ms : Nat)
  | selectClient (client : String)
  | selectState (kind : StateKind) (state : String)
  | revoke (client : String)
  | sync
  | drop

structure ClientsSession where
  now : Nat
  page : Option ClientsPage
  stage : Stage

structure ClientsReport where
  t : Nat
  result : Option Bool
  page : Option ClientsPage
  counts : Table Nat
  posts : List (Endpoint × Json)
  /-- What was logged since the report before. -/
  log : List LogEntry

namespace ClientsSession

def start (settings : PollSettings) (script : Script) : ClientsSession :=
  ⟨0, some (.start settings), ⟨script, [.pageOpened "clients"]⟩⟩

abbrev Acting := ClientsPage × Stage

def runLoops (now : Nat) (acting : Acting) : Acting :=
  let (page, stage) := acting
  let (clients, stage) := LiveLoop.runAt now (page.clients, stage)
  let (summary, stage) := page.summary.runAt now stage
  let (opens, stage) := page.opens.runAt now stage
  let (delegations, stage) := page.delegations.runAt now stage
  let (layouts, stage) := page.layouts.runAt now stage
  ({ page with clients, summary, opens, delegations, layouts }, stage)

def react (acting : Acting) : Acting :=
  let (page, log) := acting.1.reactAll
  (page, acting.2.record log)

/-- All loops do what is due and the page follows, until nothing is left to do. -/
def runAt (now : Nat) (acting : Acting) : Acting :=
  Nat.repeat (fun acting => react (runLoops now acting)) 3 acting

def nextDue (acting : Acting) : Option Nat :=
  let page := acting.1
  [page.opens.nextDue, page.delegations.nextDue, page.layouts.nextDue, page.summary.nextDue].foldl
    Clock.earliest page.clients.nextDue

def actOpen (now : Nat) (page : ClientsPage) (stage : Stage) :
    ClientsStep → ClientsSession × Option Bool
  | .settle ms =>
      let (now, page, stage) := Clock.advance nextDue runAt (fun _ => false) (now + ms) now
        (runAt now (react (page, stage)))
      (⟨now, some page, stage⟩, none)
  | .wait ms =>
      let (now, page, stage) := Clock.advance nextDue runLoops (fun _ => false) (now + ms) now
        (runLoops now (page, stage))
      (⟨now, some page, stage⟩, none)
  | .selectClient client =>
      let (page, queued) := page.selectClient client
      (⟨now, some page, stage⟩, some queued)
  | .selectState kind state =>
      let (page, queued) := page.selectState kind state
      (⟨now, some page, stage⟩, some queued)
  | .revoke client =>
      let (page, stage) := runLoops now (page, stage)
      let script := stage.script.post (.revoke client) (.bool true)
      (⟨now, some page, { stage with script }.record [.revokeSent client]⟩, some true)
  | .sync =>
      let (page, log) := page.sync
      (⟨now, some page, stage.record log⟩, none)
  | .drop => (⟨now, none, stage⟩, none)

def act (session : ClientsSession) (action : ClientsStep) : ClientsSession × Option Bool :=
  match session.page with
  | some page => actOpen session.now page session.stage action
  | none =>
      match action with
      | .settle ms | .wait ms => ({ session with now := session.now + ms }, none)
      | _ => (session, none)

def step (session : ClientsSession) (action : ClientsStep) : ClientsSession × ClientsReport :=
  let (after, result) := session.act action
  ({ after with stage := { after.stage with log := [] } },
    { t := after.now
      result
      page := after.page
      counts := after.stage.script.counts
      posts := after.stage.script.posts
      log := after.stage.log })

end ClientsSession

end NfsWatch.Rehearsal
