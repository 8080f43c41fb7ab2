import NfsWatch.Poll.Monitor
import NfsWatch.Reconcile.Selection
import NfsWatch.Server.Channel
import NfsWatch.Server.Client

/-!
# Client summary — sessions and states of one client

Whenever the set of sessions changes, all that was known about them is dropped and each session
of the new set is requested anew; the responses fill `sessionInfo` and with it the addresses. The
three kinds of states have a pick each; one whose state goes away stays empty for one pass.
-/

namespace NfsWatch.ClientSummary

structure StateList where
  ids : ReconciledList String
  selection : Selection String
deriving DecidableEq, Inhabited

namespace StateList

def empty : StateList := ⟨.empty, .empty .nextPass⟩

def selected (states : StateList) : Option String := states.selection.selected

def apply (states : StateList) (ids : List String) : StateList × Bool :=
  let (ids, outcome) := states.ids.reconcileSorted ids
  let (selection, moved) := states.selection.reconcile ids.items
  (⟨ids, selection⟩, outcome.changed || moved)

/-- Picks a state that is listed, and tells whether the pick moved. -/
def select (states : StateList) (id : String) : StateList × Bool :=
  let (selection, moved) := states.selection.select id states.ids.items
  ({ states with selection }, moved)

end StateList

structure View where
  clientId : String
  /-- Whether the client has confirmed its id; taken for granted until the first response. -/
  confirmed : Bool
  sessions : ReconciledList String
  /-- What is known about each session, built anew for each new set of sessions. -/
  sessionInfo : Table SessionDetail
  addresses : List String
  opens : StateList
  delegations : StateList
  layouts : StateList
deriving DecidableEq, Inhabited

namespace View

def start (clientId : String) : View where
  clientId := clientId
  confirmed := true
  sessions := .empty
  sessionInfo := .empty
  addresses := []
  opens := .empty
  delegations := .empty
  layouts := .empty

def states (view : View) : StateKind → StateList
  | .opens => view.opens
  | .delegations => view.delegations
  | .layouts => view.layouts

def withStates (view : View) (kind : StateKind) (states : StateList) : View :=
  match kind with
  | .opens => { view with opens := states }
  | .delegations => { view with delegations := states }
  | .layouts => { view with layouts := states }

def channels (view : View) : String := " ".intercalate view.addresses

end View

inductive Command
  | select (kind : StateKind) (state : String)
deriving DecidableEq, Inhabited

def apply (view : View) (client : ClientDetail) : Applied View :=
  let (sessions, outcome) := view.sessions.reconcileSorted client.sessions
  let (opens, opensChanged) := view.opens.apply client.opens
  let (delegations, delegationsChanged) := view.delegations.apply client.delegations
  let (layouts, layoutsChanged) := view.layouts.apply client.layouts
  let kept : View :=
    { view with confirmed := client.confirmed, sessions, opens, delegations, layouts }
  if outcome.changed then
    -- what was known about the sessions before is dropped, also of those that are listed again
    { view := { kept with sessionInfo := .empty, addresses := [] }
      changed := true
      followUps := some (sessions.items.map Endpoint.session) }
  else
    { view := kept
      changed := view.confirmed != client.confirmed || opensChanged || delegationsChanged ||
        layoutsChanged
      followUps := none }

def command (view : View) : Command → View × Bool
  | .select kind state =>
      let (states, moved) := (view.states kind).select state
      (view.withStates kind states, moved)

/-- Files what the server tells about a session that is still listed. -/
def applyFollowUp (view : View) (endpoint : Endpoint) (response : Json) : Fetched (View × Bool) :=
  match endpoint with
  | .session id =>
      if id ∈ view.sessions.items then do
        let detail ← endpoint.decodeAs SessionDetail.decode response
        let sessionInfo := view.sessionInfo.insert id detail
        return ({ view with
          sessionInfo, addresses := SessionDetail.addresses sessionInfo.values }, true)
      else .ok (view, false)
  | _ => .ok (view, false)

def monitor (clientId : String) : Monitor ClientDetail View Command where
  name := "client_summary"
  endpoint := .client clientId
  initial := .start clientId
  decode := ClientDetail.decode
  apply := apply
  command := command
  applyFollowUp := applyFollowUp

end NfsWatch.ClientSummary
