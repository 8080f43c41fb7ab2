import NfsWatch.Page.Clients
import NfsWatch.Proofs.Monitor.Announced

/-!
# What the feeds of the clients page announce

The picks of the client list and of the summary move only with a notification, on whichever way:
by a response, by operator input or by a follow-up. The ids that a summary or a detail was made
for never change.
-/

namespace NfsWatch

/-! ## Picks -/

theorem ClientList.announces_selected : Announces ClientList.monitor ClientList.View.selected :=
  ClientList.announces.part ClientList.View.selected

namespace ClientSummary

/-- The state picked of one kind, with the client that it belongs to. -/
def View.picked (kind : StateKind) (view : View) : Option (String × String) :=
  (view.states kind).selected.map fun state => (view.clientId, state)

theorem announces_picked (client : String) (kind : StateKind) :
    Announces (monitor client) (View.picked kind) :=
  (announces client).part (View.picked kind)

/-! ## Ids -/

theorem fixed_clientId (client : String) : Fixed (monitor client) View.clientId := by
  rintro view (⟨tick, detail⟩ | ⟨endpoint, response⟩ | ⟨kind, state⟩)
  · exact apply_clientId view detail
  · refine Monitor.absorb_response ?_ view endpoint response
    intro view endpoint response filed changed hfiled
    rcases applyFollowUp_cases hfiled with ⟨rfl, _⟩ | ⟨_, _, _, _, _, rfl, _⟩
    · rfl
    · rfl
  · exact withStates_clientId view kind _

end ClientSummary

/-- The client and the state that a detail was made for. -/
def StateSummary.View.ids (view : StateSummary.View) : String × String :=
  (view.clientId, view.stateId)

theorem StateSummary.fixed_ids (client state : String) :
    Fixed (StateSummary.monitor client state) StateSummary.View.ids := by
  rintro view (⟨tick, detail⟩ | ⟨endpoint, response⟩ | command)
  · rfl
  · rfl
  · exact nomatch command

end NfsWatch
