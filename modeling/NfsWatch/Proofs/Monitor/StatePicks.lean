import NfsWatch.Proofs.Monitor.ClientSummary
import NfsWatch.Proofs.Monitor.History
import NfsWatch.Proofs.Poll.Batches
import NfsWatch.Proofs.Reconcile.Ascending
import NfsWatch.Proofs.Reconcile.Picked

/-!
# The picks among the states of a client

Each kind of states has a pick of its own. A pick whose state goes away is cleared and stays so
until the next payload, or until the operator picks another state: `selected_eq_none` reads this
off the history, and the next payload then picks the least state (`next_first`). What a history
says of one kind can be left out of it without any trace in the other kinds or in the sessions
(`agreeBut_ignoring`).
-/

namespace NfsWatch.ClientSummary

open ReconciledList

variable {client : String} {kind : StateKind}

/-! ## What one contribution does to the states -/

/-- The states of one kind after a history. -/
def statesAfter (client : String) (history : List (Contribution ClientDetail Command))
    (kind : StateKind) : StateList :=
  ((monitor client).viewAfter history).states kind

/-- Filing a response touches no states. -/
theorem states_filed {view filed : View} {endpoint : Endpoint} {response : Json} {changed : Bool}
    (h : applyFollowUp view endpoint response = .ok (filed, changed)) :
    filed.states kind = view.states kind := by
  rcases applyFollowUp_cases h with ⟨rfl, _⟩ | ⟨id, detail, _, _, _, rfl, _⟩
  · rfl
  · cases kind <;> rfl

section

variable (history : List (Contribution ClientDetail Command))

theorem statesAfter_payload (tick : Nat) (payload : ClientDetail) :
    statesAfter client (history ++ [.payload tick payload]) kind =
      ((statesAfter client history kind).apply (payload.states kind)).1 := by
  unfold statesAfter
  rw [Monitor.viewAfter_concat]
  exact apply_states ..

theorem statesAfter_response (endpoint : Endpoint) (response : Json) :
    statesAfter client (history ++ [.response endpoint response]) kind =
      statesAfter client history kind := by
  unfold statesAfter
  rw [Monitor.viewAfter_concat]
  exact @Monitor.absorb_response _ _ _ _ (monitor client) (fun view => view.states kind)
    states_filed _ _ _

theorem statesAfter_command (other : StateKind) (state : String) :
    statesAfter client (history ++ [.command (.select other state)]) kind =
      if kind = other then ((statesAfter client history kind).select state).1
      else statesAfter client history kind := by
  unfold statesAfter
  rw [Monitor.viewAfter_concat]
  refine (states_withStates ..).trans ?_
  by_cases hkind : kind = other
  · subst hkind
    rw [if_pos rfl, if_pos rfl]
    rfl
  · rw [if_neg hkind, if_neg hkind]

end

/-! ## The pick is listed -/

theorem StateList.apply_items (states : StateList) (ids : List String) :
    (states.apply ids).1.ids.items = ascending ids := reconcileSorted_items ..

theorem StateList.apply_picks (states : StateList) (ids : List String) :
    (states.apply ids).1.selection = (states.selection.reconcile (ascending ids)).1 := by
  rw [← reconcileSorted_items states.ids ids]
  rfl

theorem StateList.apply_listed {states : StateList} {ids : List String} {state : String}
    (h : (states.apply ids).1.selected = some state) :
    state ∈ (states.apply ids).1.ids.items := by
  rw [apply_items]
  unfold selected at h
  rw [apply_picks] at h
  exact Selection.mem_of_reconcile h

theorem StateList.select_picks {states : StateList} {picked : String}
    (h : picked ∈ states.ids.items) : (states.select picked).1.selected = some picked :=
  Selection.select_listed h

theorem StateList.select_unlisted {states : StateList} {picked : String}
    (h : picked ∉ states.ids.items) : states.select picked = (states, false) :=
  congrArg (fun kept : Selection String × Bool => (StateList.mk states.ids kept.1, kept.2))
    (Selection.select_unlisted h)

theorem StateList.select_listed {states : StateList} {picked state : String}
    (hbefore : ∀ state, states.selected = some state → state ∈ states.ids.items)
    (h : (states.select picked).1.selected = some state) :
    state ∈ (states.select picked).1.ids.items := by
  by_cases hlisted : picked ∈ states.ids.items
  · rw [StateList.select_picks hlisted] at h
    exact Option.some.inj h ▸ hlisted
  · rw [StateList.select_unlisted hlisted] at h ⊢
    exact hbefore state h

/-- The state that is picked is listed, and the pick follows the rule of the next pass. -/
structure StateList.Sound (states : StateList) : Prop where
  nextPass : states.selection.reselect = .nextPass
  listed : ∀ state, states.selected = some state → state ∈ states.ids.items

theorem sound_statesAfter (client : String) (history : List (Contribution ClientDetail Command))
    (kind : StateKind) : (statesAfter client history kind).Sound := by
  induction history using List.reverseRecOn with
  | nil => cases kind <;> exact ⟨rfl, nofun⟩
  | append_singleton history last ih =>
      cases last with
      | payload tick payload =>
          rw [statesAfter_payload]
          refine ⟨?_, fun state => StateList.apply_listed⟩
          rw [StateList.apply_picks, Selection.reconcile_reselect]
          exact ih.nextPass
      | response endpoint response =>
          rw [statesAfter_response]
          exact ih
      | command command =>
          obtain ⟨other, picked⟩ := command
          rw [statesAfter_command]
          split
          · refine ⟨?_, fun state => StateList.select_listed ih.listed⟩
            exact (Selection.select_reselect ..).trans ih.nextPass
          · exact ih

/-! ## The next payload -/

/-- Where nothing is picked, the next payload picks the least state that it lists, if any. -/
theorem next_first {history : List (Contribution ClientDetail Command)}
    (h : (statesAfter client history kind).selected = none) (tick : Nat) (payload : ClientDetail) :
    (statesAfter client (history ++ [.payload tick payload]) kind).selected =
      (payload.states kind).min? := by
  rw [statesAfter_payload]
  unfold StateList.selected
  rw [StateList.apply_picks, Selection.reconcile_none h, head?_ascending]

/-- A pick that the next payload lists is kept. -/
theorem next_kept {history : List (Contribution ClientDetail Command)} {state : String}
    (h : (statesAfter client history kind).selected = some state) {payload : ClientDetail}
    (hlisted : state ∈ payload.states kind) (tick : Nat) :
    (statesAfter client (history ++ [.payload tick payload]) kind).selected = some state := by
  rw [statesAfter_payload]
  unfold StateList.selected
  rw [StateList.apply_picks, Selection.reconcile_listed h (mem_ascending.mpr hlisted)]
  exact h

/-- A pick that the next payload lacks is cleared. -/
theorem next_lost {history : List (Contribution ClientDetail Command)} {state : String}
    (h : (statesAfter client history kind).selected = some state) {payload : ClientDetail}
    (hgone : state ∉ payload.states kind) (tick : Nat) :
    (statesAfter client (history ++ [.payload tick payload]) kind).selected = none := by
  have hunlisted : state ∉ ascending (payload.states kind) :=
    fun hmem => hgone (mem_ascending.mp hmem)
  have hnext := (sound_statesAfter client history kind).nextPass
  rw [statesAfter_payload]
  unfold StateList.selected
  rw [StateList.apply_picks, Selection.reconcile_gone h hunlisted, hnext]
  rfl

/-- A payload lists its states. -/
theorem items_payload (history : List (Contribution ClientDetail Command)) (tick : Nat)
    (payload : ClientDetail) :
    (statesAfter client (history ++ [.payload tick payload]) kind).ids.items =
      ascending (payload.states kind) := by
  rw [statesAfter_payload, StateList.apply_items]

/-! ## When nothing is picked -/

/-- The latest payload lacked the state that was picked just before it, and no operator input for
this kind has had an effect since. -/
def Cleared (client : String) (history : List (Contribution ClientDetail Command))
    (kind : StateKind) : Prop :=
  ∃ earlier tick payload later, history = earlier ++ .payload tick payload :: later ∧
    (∀ contribution ∈ later, contribution.payload? = none) ∧
    (∃ state, (statesAfter client earlier kind).selected = some state ∧
      state ∉ payload.states kind) ∧
    ∀ before state after, later = before ++ .command (.select kind state) :: after →
      ((statesAfter client (earlier ++ .payload tick payload :: before) kind).select state).2 =
        false

section cleared

variable {history : List (Contribution ClientDetail Command)}

theorem cleared_payload {tick : Nat} {payload : ClientDetail} :
    Cleared client (history ++ [.payload tick payload]) kind ↔
      ∃ state, (statesAfter client history kind).selected = some state ∧
        state ∉ payload.states kind := by
  constructor
  · rintro ⟨earlier, number, latest, later, hsplit, hlatest, hgone, _⟩
    rcases PollLoop.split_concat hsplit with ⟨rfl, hlast, _⟩ | ⟨between, rfl, rfl⟩
    · obtain ⟨rfl, rfl⟩ := Contribution.payload.inj hlast
      exact hgone
    · -- the payload at the end would be later than the latest one
      exact nomatch hlatest (.payload tick payload) (by simp)
  · intro hgone
    exact ⟨history, tick, payload, [], rfl, by simp, hgone, by simp⟩

theorem cleared_concat {last : Contribution ClientDetail Command} (hlast : last.payload? = none) :
    Cleared client (history ++ [last]) kind ↔ Cleared client history kind ∧
      ∀ state, last = .command (.select kind state) →
        ((statesAfter client history kind).select state).2 = false := by
  constructor
  · rintro ⟨earlier, tick, payload, later, hsplit, hlatest, hgone, hunmoved⟩
    rcases PollLoop.split_concat hsplit with ⟨_, rfl, _⟩ | ⟨between, rfl, rfl⟩
    · exact nomatch hlast
    · refine ⟨⟨earlier, tick, payload, between, rfl, ?_, hgone, ?_⟩, ?_⟩
      · exact fun contribution hmem => hlatest contribution (List.mem_append_left _ hmem)
      · rintro before state after rfl
        exact hunmoved before state (after ++ [last]) (by simp)
      · rintro state rfl
        exact hunmoved between state [] rfl
  · rintro ⟨⟨earlier, tick, payload, later, rfl, hlatest, hgone, hunmoved⟩, hkept⟩
    refine ⟨earlier, tick, payload, later ++ [last], by simp, ?_, hgone, ?_⟩
    · intro contribution hmem
      rcases List.mem_append.mp hmem with hearlier | hnew
      · exact hlatest contribution hearlier
      · exact List.mem_singleton.mp hnew ▸ hlast
    · intro before state after hsplit
      rcases PollLoop.split_concat hsplit with ⟨rfl, hcommand, _⟩ | ⟨between, hbetween, _⟩
      · exact hkept state hcommand
      · exact hunmoved before state between hbetween

/-- Operator input leaves no pick behind only where there was none and it has no effect. -/
theorem StateList.select_eq_none (states : StateList) (state : String) :
    (states.select state).1.selected = none ↔
      states.selected = none ∧ (states.select state).2 = false := by
  by_cases hlisted : state ∈ states.ids.items
  · have hpicked := StateList.select_picks hlisted
    have hmoved : (states.select state).2 = true ↔ states.selected ≠ some state :=
      Selection.select_moved.trans (and_iff_right hlisted)
    constructor
    · intro hnone
      exact nomatch hnone.symm.trans hpicked
    · rintro ⟨hnone, hquiet⟩
      exact absurd (hmoved.mpr (by simp [hnone])) (by simp [hquiet])
  · rw [StateList.select_unlisted hlisted]
    exact (and_iff_left rfl).symm

/-- With states listed, nothing is picked exactly while the pick is cleared. -/
theorem selected_eq_none (history : List (Contribution ClientDetail Command))
    (hlisted : (statesAfter client history kind).ids.items ≠ []) :
    (statesAfter client history kind).selected = none ↔ Cleared client history kind := by
  induction history using List.reverseRecOn with
  | nil => exact absurd (by cases kind <;> rfl) hlisted
  | append_singleton history last ih =>
      cases last with
      | payload tick payload =>
          rw [items_payload] at hlisted
          rw [cleared_payload]
          constructor
          · intro hnone
            unfold StateList.selected at hnone
            rw [statesAfter_payload, StateList.apply_picks] at hnone
            rcases Selection.reconcile_eq_none hnone with hempty | ⟨_, state, hpicked, hgone⟩
            · exact absurd hempty hlisted
            · exact ⟨state, hpicked, fun hmem => hgone (mem_ascending.mpr hmem)⟩
          · rintro ⟨state, hpicked, hgone⟩
            exact next_lost hpicked hgone tick
      | response endpoint response =>
          rw [statesAfter_response] at hlisted ⊢
          rw [cleared_concat rfl, ih hlisted]
          exact (and_iff_left (nofun : ∀ state, _ = _ → _)).symm
      | command command =>
          obtain ⟨other, picked⟩ := command
          rw [cleared_concat rfl]
          by_cases hkind : kind = other
          · subst hkind
            rw [statesAfter_command, if_pos rfl] at hlisted ⊢
            rw [StateList.select_ids] at hlisted
            -- only input for a state that is listed has an effect, and it ends the clearing
            rw [StateList.select_eq_none, ih hlisted]
            refine and_congr_right fun _ => ⟨fun hquiet state hsame => ?_, fun hquiet => ?_⟩
            · obtain ⟨_, rfl⟩ := Command.select.inj (Contribution.command.inj hsame)
              exact hquiet
            · exact hquiet picked rfl
          · rw [statesAfter_command, if_neg hkind] at hlisted ⊢
            rw [ih hlisted]
            refine (and_iff_left fun state hcommand => ?_).symm
            exact absurd (Command.select.inj (Contribution.command.inj hcommand)).1.symm hkind

end cleared

/-! ## The kinds do not touch each other -/

/-- A payload that lists no states of one kind. -/
def withoutStates (payload : ClientDetail) : StateKind → ClientDetail
  | .opens => { payload with opens := [] }
  | .delegations => { payload with delegations := [] }
  | .layouts => { payload with layouts := [] }

/-- A contribution without what it says of one kind: a payload lists no states of that kind, and
operator input for it is left out. -/
def ignoring (kind : StateKind) :
    Contribution ClientDetail Command → Option (Contribution ClientDetail Command)
  | .payload number content => some (.payload number (withoutStates content kind))
  | .response endpoint response => some (.response endpoint response)
  | .command (.select other state) =>
      if other = kind then none else some (.command (.select other state))

/-- The detail of a listed session that a response brings, if it does. -/
def sessionDetail? (sessions : List String) (endpoint : Endpoint) (response : Json) :
    Option (String × SessionDetail) :=
  match endpoint with
  | .session id =>
      if id ∈ sessions then (SessionDetail.decode response).toOption.map (id, ·) else none
  | _ => none

theorem absorb_response (view : View) (endpoint : Endpoint) (response : Json) :
    (monitor client).absorb view (.response endpoint response) =
      (sessionDetail? view.sessions.items endpoint response).elim view
        (fun found => view.file found.1 found.2) := by
  cases endpoint with
  | session id =>
      by_cases hlisted : id ∈ view.sessions.items
      · cases hdecode : SessionDetail.decode response with
        | ok detail =>
            have hfiled : (monitor client).applyFollowUp view (.session id) response =
                .ok (view.file id detail, true) := by
              simp only [monitor, applyFollowUp, if_pos hlisted, Endpoint.decodeAs, hdecode]
              rfl
            simp only [Monitor.absorb, hfiled, sessionDetail?, if_pos hlisted, hdecode]
            rfl
        | error error =>
            have hdropped : (monitor client).applyFollowUp view (.session id) response =
                .error (.decode (.session id) error.message) := by
              simp only [monitor, applyFollowUp, if_pos hlisted, Endpoint.decodeAs, hdecode]
              rfl
            simp only [Monitor.absorb, hdropped, sessionDetail?, if_pos hlisted, hdecode]
            rfl
      · have hleft : (monitor client).applyFollowUp view (.session id) response =
            .ok (view, false) := by
          simp only [monitor, applyFollowUp, if_neg hlisted]
        simp only [Monitor.absorb, hleft, sessionDetail?, if_neg hlisted]
        rfl
  | _ => rfl

/-- Views that differ in the states of one kind at most. -/
structure AgreeBut (kind : StateKind) (first second : View) : Prop where
  clientId : first.clientId = second.clientId
  confirmed : first.confirmed = second.confirmed
  sessions : first.sessions = second.sessions
  sessionInfo : first.sessionInfo = second.sessionInfo
  addresses : first.addresses = second.addresses
  states : ∀ other, other ≠ kind → first.states other = second.states other

namespace AgreeBut

variable {first second third : View}

theorem refl (view : View) : AgreeBut kind view view := ⟨rfl, rfl, rfl, rfl, rfl, fun _ _ => rfl⟩

theorem symm (h : AgreeBut kind first second) : AgreeBut kind second first where
  clientId := h.clientId.symm
  confirmed := h.confirmed.symm
  sessions := h.sessions.symm
  sessionInfo := h.sessionInfo.symm
  addresses := h.addresses.symm
  states := fun other hother => (h.states other hother).symm

theorem trans (h : AgreeBut kind first second) (h' : AgreeBut kind second third) :
    AgreeBut kind first third where
  clientId := h.clientId.trans h'.clientId
  confirmed := h.confirmed.trans h'.confirmed
  sessions := h.sessions.trans h'.sessions
  sessionInfo := h.sessionInfo.trans h'.sessionInfo
  addresses := h.addresses.trans h'.addresses
  states := fun other hother => (h.states other hother).trans (h'.states other hother)

theorem withStates (h : AgreeBut kind first second) (states : StateList) :
    AgreeBut kind (first.withStates kind states) second where
  clientId := (withStates_clientId ..).trans h.clientId
  confirmed := (withStates_confirmed ..).trans h.confirmed
  sessions := (withStates_sessions ..).trans h.sessions
  sessionInfo := (withStates_sessionInfo ..).trans h.sessionInfo
  addresses := (withStates_addresses ..).trans h.addresses
  states := by
    intro other hother
    rw [states_withStates, if_neg hother]
    exact h.states other hother

theorem withStates_both (h : AgreeBut kind first second) (other : StateKind)
    (states : StateList) :
    AgreeBut kind (first.withStates other states) (second.withStates other states) where
  clientId := by simpa using h.clientId
  confirmed := by simpa using h.confirmed
  sessions := by simpa using h.sessions
  sessionInfo := by simpa using h.sessionInfo
  addresses := by simpa using h.addresses
  states := by
    intro third hthird
    rw [states_withStates, states_withStates, h.states third hthird]

theorem file (h : AgreeBut kind first second) (id : String) (detail : SessionDetail) :
    AgreeBut kind (first.file id detail) (second.file id detail) where
  clientId := h.clientId
  confirmed := h.confirmed
  sessions := h.sessions
  sessionInfo := congrArg (Table.insert · id detail) h.sessionInfo
  addresses := congrArg (fun info => SessionDetail.addresses (Table.insert info id detail).values)
    h.sessionInfo
  states := by
    intro other hother
    have hstates := h.states other hother
    cases other <;> exact hstates

theorem apply (h : AgreeBut kind first second) (payload : ClientDetail) :
    AgreeBut kind (ClientSummary.apply first payload).view
      (ClientSummary.apply second (withoutStates payload kind)).view := by
  have hsent : (withoutStates payload kind).sessions = payload.sessions ∧
      (withoutStates payload kind).confirmed = payload.confirmed := by
    cases kind <;> exact ⟨rfl, rfl⟩
  have hstates : ∀ other, other ≠ kind →
      (withoutStates payload kind).states other = payload.states other := by
    intro other hother
    cases kind <;> cases other <;> first | rfl | exact absurd rfl hother
  have hknown : (ClientSummary.apply first payload).view.sessionInfo =
        (ClientSummary.apply second (withoutStates payload kind)).view.sessionInfo ∧
      (ClientSummary.apply first payload).view.addresses =
        (ClientSummary.apply second (withoutStates payload kind)).view.addresses := by
    by_cases hsame : first.sessions.items = ascending payload.sessions
    · obtain ⟨hinfo, haddresses, _⟩ := apply_same hsame
      obtain ⟨hinfo', haddresses', _⟩ := @apply_same second (withoutStates payload kind)
        (by rw [← h.sessions, hsent.1, hsame])
      rw [hinfo, hinfo', haddresses, haddresses']
      exact ⟨h.sessionInfo, h.addresses⟩
    · obtain ⟨hinfo, haddresses, _⟩ := apply_installed hsame
      obtain ⟨hinfo', haddresses', _⟩ := @apply_installed second (withoutStates payload kind)
        (by rw [← h.sessions, hsent.1]; exact hsame)
      rw [hinfo, hinfo', haddresses, haddresses']
      exact ⟨rfl, rfl⟩
  refine ⟨?_, ?_, ?_, hknown.1, hknown.2, ?_⟩
  · rw [apply_clientId, apply_clientId, h.clientId]
  · rw [apply_confirmed, apply_confirmed, hsent.2]
  · rw [apply_sessions, apply_sessions, h.sessions, hsent.1]
  · intro other hother
    rw [apply_states, apply_states, h.states other hother, hstates other hother]

theorem response (h : AgreeBut kind first second) (endpoint : Endpoint) (response : Json) :
    AgreeBut kind ((monitor client).absorb first (.response endpoint response))
      ((monitor client).absorb second (.response endpoint response)) := by
  rw [absorb_response, absorb_response, h.sessions]
  cases sessionDetail? second.sessions.items endpoint response with
  | none => exact h
  | some found => exact h.file found.1 found.2

theorem command (h : AgreeBut kind first second) (other : StateKind) (state : String) :
    AgreeBut kind (ClientSummary.command first (.select other state)).1
      (if other = kind then second
        else (ClientSummary.command second (.select other state)).1) := by
  split
  · rename_i hother
    subst hother
    exact h.withStates _
  · rename_i hother
    show AgreeBut kind (first.withStates other ((first.states other).select state).1)
      (second.withStates other ((second.states other).select state).1)
    rw [h.states other hother]
    exact h.withStates_both other _

end AgreeBut

/-- Leaving out of a history what it says of one kind changes the states of that kind at most. -/
theorem agreeBut_ignoring (client : String) (kind : StateKind)
    (history : List (Contribution ClientDetail Command)) :
    AgreeBut kind ((monitor client).viewAfter history)
      ((monitor client).viewAfter (history.filterMap (ignoring kind))) := by
  induction history using List.reverseRecOn with
  | nil => exact .refl _
  | append_singleton history last ih =>
      rw [Monitor.viewAfter_concat, List.filterMap_append]
      cases last with
      | payload number content =>
          show AgreeBut kind _ (Monitor.viewAfter _ (_ ++ [_]))
          rw [Monitor.viewAfter_concat]
          exact ih.apply content
      | response endpoint response =>
          show AgreeBut kind _ (Monitor.viewAfter _ (_ ++ [_]))
          rw [Monitor.viewAfter_concat]
          exact ih.response endpoint response
      | command command =>
          obtain ⟨other, state⟩ := command
          -- input for the kind is left out, input for another one is taken on both sides
          have hstep := ih.command other state
          show AgreeBut kind (command _ _).1 _
          by_cases hother : other = kind
          · rw [if_pos hother] at hstep
            simpa [ignoring, hother] using hstep
          · rw [if_neg hother] at hstep
            rw [show [Contribution.command (.select other state)].filterMap (ignoring kind) =
              [.command (.select other state)] by simp [ignoring, hother], Monitor.viewAfter_concat]
            exact hstep

/-! ## Picks clear for one pass -/

/-- What is picked among the states of one kind after a history, and after one more payload. -/
structure Picks (client : String) (history : List (Contribution ClientDetail Command))
    (kind : StateKind) : Prop where
  listed : ∀ state, (statesAfter client history kind).selected = some state →
    state ∈ (statesAfter client history kind).ids.items
  none_iff : (statesAfter client history kind).ids.items ≠ [] →
    ((statesAfter client history kind).selected = none ↔ Cleared client history kind)
  first : (statesAfter client history kind).selected = none → ∀ tick payload,
    (statesAfter client (history ++ [.payload tick payload]) kind).selected =
      (payload.states kind).min?
  kept : ∀ state, (statesAfter client history kind).selected = some state →
    ∀ tick payload, state ∈ payload.states kind →
      (statesAfter client (history ++ [.payload tick payload]) kind).selected = some state

/-- After every history the picks of each kind are as said, and histories that differ in what they
say of one kind alone leave everything but the states of that kind the same. -/
theorem state_picks_clear_for_one_pass (client : String) (kind : StateKind) :
    (∀ history, Picks client history kind) ∧
      ∀ first second : List (Contribution ClientDetail Command),
        first.filterMap (ignoring kind) = second.filterMap (ignoring kind) →
        AgreeBut kind ((monitor client).viewAfter first) ((monitor client).viewAfter second) := by
  constructor
  · intro history
    exact {
      listed := (sound_statesAfter client history kind).listed
      none_iff := selected_eq_none history
      first := next_first
      kept := fun _ hpicked tick _ hlisted => next_kept hpicked hlisted tick }
  · intro first second hsame
    have hfirst := agreeBut_ignoring client kind first
    have hsecond := agreeBut_ignoring client kind second
    rw [hsame] at hfirst
    exact hfirst.trans hsecond.symm

/-- The operator picks an open state; the next payload lacks it, so nothing is picked; the one after
that picks the least open state. The delegations take no notice. -/
theorem lost_pick_returns_next_pass :
    let sent (opens : List String) : ClientDetail := ⟨true, ["s"], opens, ["d"], []⟩
    let history : List (Contribution ClientDetail Command) :=
      [.payload 1 (sent ["o2", "o1"]), .command (.select .opens "o2"),
        .payload 2 (sent ["o3", "o1"])]
    (statesAfter "c" (history.take 2) .opens).selected = some "o2" ∧
      (statesAfter "c" (history.take 2 ++ [.payload 2 (sent ["o2"])]) .opens).selected =
        some "o2" ∧
      Cleared "c" history .opens ∧
      (statesAfter "c" (history ++ [.payload 3 (sent ["o3", "o1"])]) .opens).selected =
        some "o1" ∧
      statesAfter "c" history .delegations =
        statesAfter "c" [.payload 1 (sent []), .payload 2 (sent [])] .delegations := by
  intro sent history
  obtain ⟨hpicks, hapart⟩ := state_picks_clear_for_one_pass "c" .opens
  have hpicked : (statesAfter "c" (history.take 2) .opens).selected = some "o2" := by
    have hitems := @items_payload "c" .opens [] 1 (sent ["o2", "o1"])
    exact StateList.select_picks (hitems ▸ mem_ascending.mpr (by decide))
  have hlost : (statesAfter "c" history .opens).selected = none :=
    @next_lost _ _ (history.take 2) _ hpicked _ (by decide) 2
  have hlisted : (statesAfter "c" history .opens).ids.items ≠ [] := by
    have hitems := @items_payload "c" .opens (history.take 2) 2 (sent ["o3", "o1"])
    have hmem : "o1" ∈ ascending ["o3", "o1"] := mem_ascending.mpr (by decide)
    exact hitems.trans_ne (List.ne_nil_of_mem hmem)
  refine ⟨hpicked, ?_, ((hpicks history).none_iff hlisted).mp hlost, ?_, ?_⟩
  · exact (hpicks _).kept "o2" hpicked 2 (sent ["o2"]) (by decide)
  · rw [(hpicks history).first hlost 3 (sent ["o3", "o1"])]
    decide +kernel
  · exact (hapart history [.payload 1 (sent []), .payload 2 (sent [])] rfl).states .delegations
      (by decide)

end NfsWatch.ClientSummary
