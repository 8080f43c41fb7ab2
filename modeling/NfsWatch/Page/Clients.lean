import NfsWatch.Monitor.ClientList
import NfsWatch.Monitor.ClientSummary
import NfsWatch.Monitor.StateSummary
import NfsWatch.Page.Scope

/-!
# Clients page — the client list, one summary and three details

The page polls the list of clients. Its summary follows the client that is picked, and one detail
for each kind of states follows the state that is picked in the summary. `sync` points the scopes
at these targets; the page does so whenever it takes note of a notification of the client list or
of the summary, and then in one pass: a summary that has just moved has no state picked yet, so
its details are taken down with it.
-/

namespace NfsWatch

abbrev ClientList.Live := LiveLoop (List String) ClientList.View ClientList.Command

abbrev ClientSummary.Scoped := Scope String ClientDetail ClientSummary.View ClientSummary.Command

abbrev StateSummary.Scoped := Scope (String × String) StateDetail StateSummary.View Empty

def ClientSummary.spawn (settings : PollSettings) (client : String) :
    LiveLoop ClientDetail ClientSummary.View ClientSummary.Command :=
  .spawn (ClientSummary.monitor client) settings

def StateSummary.spawn (settings : PollSettings) (target : String × String) :
    LiveLoop StateDetail StateSummary.View Empty :=
  .spawn (StateSummary.monitor target.1 target.2) settings

structure ClientsPage where
  settings : PollSettings
  clients : ClientList.Live
  summary : ClientSummary.Scoped
  opens : StateSummary.Scoped
  delegations : StateSummary.Scoped
  layouts : StateSummary.Scoped

inductive ClientsChange
  | clients
  | summary
  | state (kind : StateKind)
deriving DecidableEq, Repr, Inhabited

namespace ClientsPage

/-- Opens the page: only the client list is polled at first. -/
def start (settings : PollSettings) : ClientsPage where
  settings := settings
  clients := .spawn ClientList.monitor settings
  summary := .empty
  opens := .empty
  delegations := .empty
  layouts := .empty

def selectedClient (page : ClientsPage) : Option String := page.clients.view.selected

def state (page : ClientsPage) : StateKind → StateSummary.Scoped
  | .opens => page.opens
  | .delegations => page.delegations
  | .layouts => page.layouts

def withState (page : ClientsPage) (kind : StateKind) (scope : StateSummary.Scoped) :
    ClientsPage :=
  match kind with
  | .opens => { page with opens := scope }
  | .delegations => { page with delegations := scope }
  | .layouts => { page with layouts := scope }

/-! ## Operator input -/

def selectClient (page : ClientsPage) (client : String) : ClientsPage × Bool :=
  let (clients, queued) := page.clients.send (.select client)
  ({ page with clients }, queued)

def selectState (page : ClientsPage) (kind : StateKind) (state : String) : ClientsPage × Bool :=
  let (summary, queued) := page.summary.send (.select kind state)
  ({ page with summary }, queued)

/-! ## Scopes -/

def syncSummary (page : ClientsPage) : ClientsPage × List LogEntry :=
  let selected := page.selectedClient
  let (summary, moved) :=
    page.summary.retarget selected (ClientSummary.spawn page.settings)
  ({ page with summary }, if moved then [.summaryRetargeted selected] else [])

/-- What the detail of one kind should show: the state picked in the summary, of its client. -/
def stateTarget (page : ClientsPage) (kind : StateKind) : Option (String × String) :=
  page.summary.live.bind (fun live =>
    (live.view.states kind).selected.map (fun state => (live.view.clientId, state)))

def syncState (page : ClientsPage) (kind : StateKind) : ClientsPage × List LogEntry :=
  let target := page.stateTarget kind
  let (scope, moved) := (page.state kind).retarget target (StateSummary.spawn page.settings)
  (page.withState kind scope,
    if moved then [.stateRetargeted kind (target.map Prod.snd)] else [])

def sync (page : ClientsPage) : ClientsPage × List LogEntry :=
  StateKind.all.foldl
    (fun (page, log) kind =>
      let (page, more) := page.syncState kind
      (page, log ++ more))
    page.syncSummary

def pending (page : ClientsPage) : List ClientsChange :=
  (if page.clients.hasUnseen then [.clients] else []) ++
    (if page.summary.hasUnseen then [.summary] else []) ++
    (StateKind.all.filter (fun kind => (page.state kind).hasUnseen)).map .state

def acknowledge (page : ClientsPage) : ClientsChange → ClientsPage
  | .clients => { page with clients := page.clients.acknowledge }
  | .summary => { page with summary := page.summary.acknowledge }
  | .state kind => page.withState kind (page.state kind).acknowledge

/-- Takes note of one notification, and of what follows from it. -/
def react (page : ClientsPage) (change : ClientsChange) : ClientsPage × List LogEntry :=
  let page := page.acknowledge change
  match change with
  | .state _ => (page, [])
  | _ => page.sync

def reactAll (page : ClientsPage) : ClientsPage × List LogEntry :=
  page.pending.foldl
    (fun (page, log) change =>
      let (page, more) := page.react change
      (page, log ++ more))
    (page, [])

end ClientsPage

end NfsWatch
