import NfsWatch.Monitor.ClientSummary
import NfsWatch.Proofs.Reconcile.Displayed

/-!
# What the summary of a client does with a response

One equation for each part of the view. The parts hang together in one place only: when the sessions
are replaced, what was known about them goes and each of the new ones is requested.
-/

namespace NfsWatch.ClientSummary

open ReconciledList

/-! ## States of one kind -/

@[simp] theorem StateList.apply_ids (states : StateList) (ids : List String) :
    (states.apply ids).1.ids = (states.ids.reconcileSorted ids).1 := rfl

@[simp] theorem StateList.select_ids (states : StateList) (id : String) :
    (states.select id).1.ids = states.ids := rfl

@[simp] theorem states_withStates (view : View) (kind other : StateKind) (states : StateList) :
    (view.withStates kind states).states other =
      if other = kind then states else view.states other := by
  cases kind <;> cases other <;> rfl

/-! ## Taking a payload -/

section apply

variable (view : View) (client : ClientDetail)

@[simp] theorem apply_clientId : (apply view client).view.clientId = view.clientId := by
  unfold apply
  dsimp only
  split <;> rfl

@[simp] theorem apply_confirmed : (apply view client).view.confirmed = client.confirmed := by
  unfold apply
  dsimp only
  split <;> rfl

@[simp] theorem apply_sessions :
    (apply view client).view.sessions = (view.sessions.reconcileSorted client.sessions).1 := by
  unfold apply
  dsimp only
  split <;> rfl

@[simp] theorem apply_states (kind : StateKind) :
    (apply view client).view.states kind =
      ((view.states kind).apply (client.states kind)).1 := by
  unfold apply
  dsimp only
  split <;> cases kind <;> rfl

variable {view client}

/-- The same sessions as before: what is known about them stays, and nothing is requested. -/
theorem apply_same (h : view.sessions.items = ascending client.sessions) :
    (apply view client).view.sessionInfo = view.sessionInfo ∧
      (apply view client).view.addresses = view.addresses ∧
      (apply view client).followUps = none := by
  unfold apply
  rw [reconcileSorted_same h]
  exact ⟨rfl, rfl, rfl⟩

/-- Other sessions than before: nothing is known about them, and each is requested. -/
theorem apply_installed (h : view.sessions.items ≠ ascending client.sessions) :
    (apply view client).view.sessionInfo = .empty ∧
      (apply view client).view.addresses = [] ∧
      (apply view client).followUps =
        some ((ascending client.sessions).map Endpoint.session) := by
  unfold apply
  rw [reconcileSorted_replaced h]
  exact ⟨rfl, rfl, rfl⟩

end apply

/-! ## Filing a response -/

/-- The view with the detail of a session filed. -/
def View.file (view : View) (id : String) (detail : SessionDetail) : View :=
  { view with
    sessionInfo := view.sessionInfo.insert id detail
    addresses := SessionDetail.addresses (view.sessionInfo.insert id detail).values }

theorem applyFollowUp_listed {view : View} {id : String} {response : Json} {detail : SessionDetail}
    (hlisted : id ∈ view.sessions.items) (hdecode : SessionDetail.decode response = .ok detail) :
    applyFollowUp view (.session id) response = .ok (view.file id detail, true) := by
  simp only [applyFollowUp, hlisted, if_true, Endpoint.decodeAs, hdecode]
  rfl

theorem applyFollowUp_undecoded {view : View} {id : String} {response : Json} {cause : DecodeError}
    (hlisted : id ∈ view.sessions.items) (hdecode : SessionDetail.decode response = .error cause) :
    applyFollowUp view (.session id) response =
      .error (.decode (.session id) cause.message) := by
  simp only [applyFollowUp, hlisted, if_true, Endpoint.decodeAs, hdecode]
  rfl

theorem applyFollowUp_unlisted {view : View} {id : String} (hunlisted : id ∉ view.sessions.items)
    (response : Json) : applyFollowUp view (.session id) response = .ok (view, false) :=
  if_neg hunlisted

/-- A response that is filed leaves the view alone, or is the detail of a session that is
listed. -/
theorem applyFollowUp_cases {view filed : View} {endpoint : Endpoint} {response : Json}
    {changed : Bool} (h : applyFollowUp view endpoint response = .ok (filed, changed)) :
    (filed = view ∧ changed = false) ∨
      ∃ id detail, endpoint = .session id ∧ id ∈ view.sessions.items ∧
        SessionDetail.decode response = .ok detail ∧ filed = view.file id detail ∧
        changed = true := by
  cases endpoint with
  | session id =>
      by_cases hmem : id ∈ view.sessions.items
      · cases hdecode : SessionDetail.decode response with
        | ok detail =>
            rw [applyFollowUp_listed hmem hdecode] at h
            cases h
            exact Or.inr ⟨id, detail, rfl, hmem, rfl, rfl, rfl⟩
        | error cause =>
            rw [applyFollowUp_undecoded hmem hdecode] at h
            exact nomatch h
      · rw [applyFollowUp_unlisted hmem] at h
        cases h
        exact Or.inl ⟨rfl, rfl⟩
  | _ =>
      cases h
      exact Or.inl ⟨rfl, rfl⟩

/-! ## Exchanging the states of one kind -/

section withStates

variable (view : View) (kind : StateKind) (states : StateList)

@[simp] theorem withStates_clientId : (view.withStates kind states).clientId = view.clientId := by
  cases kind <;> rfl

@[simp] theorem withStates_confirmed :
    (view.withStates kind states).confirmed = view.confirmed := by
  cases kind <;> rfl

@[simp] theorem withStates_sessions : (view.withStates kind states).sessions = view.sessions := by
  cases kind <;> rfl

@[simp] theorem withStates_sessionInfo :
    (view.withStates kind states).sessionInfo = view.sessionInfo := by
  cases kind <;> rfl

@[simp] theorem withStates_addresses :
    (view.withStates kind states).addresses = view.addresses := by
  cases kind <;> rfl

end withStates

end NfsWatch.ClientSummary
