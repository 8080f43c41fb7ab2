import Mathlib.Logic.Relation
import NfsWatch.Page.Clients
import NfsWatch.Proofs.Page.Scope

/-!
# Runs of the clients page

The loops of the page move on their own. The owner picks clients and states, waits for
notifications and takes note of them; a wait that is given up has no effect. Pointing the scopes at
their targets takes one look at a loop after the other, and the loops do not stand still meanwhile.
So `Sweeps` lets any number of moves happen between two looks, and `sync`, during which nothing
else happens, is the quickest sweep.
-/

namespace NfsWatch.ClientsPage

/-- One of the loops of the page moves. -/
inductive LoopMoves (page : ClientsPage) : ClientsPage → Prop
  | clients {after : ClientList.Live} :
      page.clients.Moves after → LoopMoves page { page with clients := after }
  | summary {after : ClientSummary.Scoped} :
      page.summary.Moves after → LoopMoves page { page with summary := after }
  | state (kind : StateKind) {after : StateSummary.Scoped} :
      (page.state kind).Moves after → LoopMoves page (page.withState kind after)

/-- The loops of the page move for a while. -/
def Waits : ClientsPage → ClientsPage → Prop := Relation.ReflTransGen LoopMoves

/-- The details of these kinds are pointed at the states picked, one after the other. -/
inductive SweepsStates : List StateKind → ClientsPage → ClientsPage → Prop
  | done (page : ClientsPage) : SweepsStates [] page page
  | next {kind : StateKind} {kinds : List StateKind} {page waited after : ClientsPage} :
      Waits page waited → SweepsStates kinds (waited.syncState kind).1 after →
      SweepsStates (kind :: kinds) page after

/-- All scopes are pointed at their targets, one after the other. -/
def Sweeps (page after : ClientsPage) : Prop :=
  ∃ waited, Waits page waited ∧ SweepsStates StateKind.all waited.syncSummary.1 after

/-- What may happen to the page. -/
inductive Step (page : ClientsPage) : ClientsPage → Prop
  | moves {after : ClientsPage} : LoopMoves page after → Step page after
  | selectClient (client : String) : Step page (page.selectClient client).1
  | selectState (kind : StateKind) (state : String) : Step page (page.selectState kind state).1
  /-- A wait ends with a notification of the client list or of the summary. -/
  | follows {change : ClientsChange} {after : ClientsPage} :
      change ∈ page.pending → change = .clients ∨ change = .summary →
      Sweeps (page.acknowledge change) after → Step page after
  /-- A wait ends with a notification of a detail. -/
  | notes {kind : StateKind} : .state kind ∈ page.pending →
      Step page (page.acknowledge (.state kind))
  /-- A wait is given up. -/
  | givesUp : Step page page
  /-- The owner points the scopes at their targets unasked. -/
  | sweeps {after : ClientsPage} : Sweeps page after → Step page after

/-- What the page can come to after it was opened. -/
inductive Reachable (settings : PollSettings) : ClientsPage → Prop
  | start : Reachable settings (.start settings)
  | step {page after : ClientsPage} : Reachable settings page → Step page after →
      Reachable settings after

/-- Pointing all scopes at their targets at once is a sweep. -/
theorem sweeps_sync (page : ClientsPage) : Sweeps page page.sync.1 :=
  ⟨page, .refl, .next .refl (.next .refl (.next .refl (.done _)))⟩

/-- What the page does about a pending notification is one of its steps. -/
theorem step_react {page : ClientsPage} {change : ClientsChange} (h : change ∈ page.pending) :
    Step page (page.react change).1 := by
  cases change with
  | clients => exact .follows h (Or.inl rfl) (sweeps_sync _)
  | summary => exact .follows h (Or.inr rfl) (sweeps_sync _)
  | state kind => exact .notes h

/-- Picks are queued with the loops that they are for. -/
theorem waits_selectClient (page : ClientsPage) (client : String) :
    Waits page (page.selectClient client).1 :=
  .single (.clients (.queued page.clients (.select client)))

theorem waits_selectState (page : ClientsPage) (kind : StateKind) (state : String) :
    Waits page (page.selectState kind state).1 := by
  unfold selectState Scope.send
  cases hcurrent : page.summary.current with
  | none => exact .refl
  | some entry => exact .single (.summary (.loop hcurrent (.queued entry.2 (.select kind state))))

end NfsWatch.ClientsPage
