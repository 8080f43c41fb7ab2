import NfsWatch.Poll.Monitor
import NfsWatch.Reconcile.Selection

/-!
# Client list — the connected clients and the operator's pick

The ids are shown in byte order. A client that is picked and goes away is replaced by the first
one at once.
-/

namespace NfsWatch.ClientList

structure View where
  clients : ReconciledList String
  selection : Selection String
deriving DecidableEq, Inhabited

inductive Command
  | select (client : String)
deriving DecidableEq, Inhabited

def View.selected (view : View) : Option String := view.selection.selected

def apply (view : View) (ids : List String) : Applied View :=
  let (clients, outcome) := view.clients.reconcileSorted ids
  let (selection, moved) := view.selection.reconcile clients.items
  { view := ⟨clients, selection⟩, changed := outcome.changed || moved, followUps := none }

def command (view : View) : Command → View × Bool
  | .select client =>
      let (selection, moved) := view.selection.select client view.clients.items
      ({ view with selection }, moved)

def monitor : Monitor (List String) View Command where
  name := "clients"
  endpoint := .clients
  initial := ⟨.empty, .empty .immediate⟩
  decode := Decode.list Decode.text
  apply := apply
  command := command
  applyFollowUp := noFollowUp

end NfsWatch.ClientList
