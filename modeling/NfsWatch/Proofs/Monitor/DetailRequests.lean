import Mathlib.Data.List.Count
import Mathlib.Data.List.Nodup
import NfsWatch.Proofs.Monitor.FailedDetails
import NfsWatch.Proofs.Poll.Accounts
import NfsWatch.Proofs.Reconcile.Ascending

/-!
# How often a session is asked for

The sessions are listed as the server gives them, repetitions included, and each entry of the list
has a request of its own. A session listed once is asked for and answered once, so nothing is known
about it when the answer comes, and the answer changes the view. A session listed twice is asked for
twice, and each answer is announced, the second one also where it tells nothing new.
`details_requested_by_entry` says which is which, and `repeated_session_asked_twice` shows both
repetitions.
-/

namespace NfsWatch.ClientSummary

open PollLoop

variable {client : String} {settings : PollSettings}

/-! ## Requests -/

variable (client settings) in
/-- An event that leaves the list of sessions alone asks for none, and any other asks for each as
often as it is listed from then on. -/
theorem requests_by_entry (events : List (Event Command)) (event : Event Command) :
    ((shown client settings (events ++ [event])).sessions =
        (shown client settings events).sessions ∧
      ∀ batch endpoint, Request.followUp batch endpoint ∉
        (effectAfter (monitor client) settings events event).requests) ∨
    ((shown client settings (events ++ [event])).sessions.generation =
        (shown client settings events).sessions.generation + 1 ∧
      (effectAfter (monitor client) settings events event).requests =
        (shown client settings (events ++ [event])).sessions.items.map fun id =>
          .followUp (reached (monitor client) settings (events ++ [event])).batch
            (.session id)) := by
  have hstep := @sessionsStep_concat client settings events event
  have hloop := @reached_concat _ _ _ (monitor client) settings events event
  rcases requests_batches (monitor client) settings (reached (monitor client) settings events)
    event with ⟨hkept, hnone⟩ | ⟨hraised, _⟩
  · change (effectAfter (monitor client) settings events event).loop.batch = _ at hkept
    rw [← hloop] at hkept
    exact Or.inl ⟨hstep.sessions_eq hkept, hnone⟩
  · change (effectAfter (monitor client) settings events event).loop.batch = _ at hraised
    rw [← hloop] at hraised
    refine Or.inr ⟨?_, hstep.requests_eq (ne_of_eq_of_ne hraised (Nat.succ_ne_self _))⟩
    rw [← (sessionsSound (events ++ [event])).batch, hraised, (sessionsSound events).batch]

theorem count_sessions (batch : Nat) (ids : List String) (id : String) :
    (ids.map fun id => Request.followUp batch (.session id)).count (.followUp batch (.session id)) =
      ids.count id := by
  refine List.count_map_of_injective _ (fun id => Request.followUp batch (.session id)) ?_ id
  intro first second h
  exact Endpoint.session.inj (Request.followUp.inj h).2

/-- In the latest batch each session was asked for as often as it is listed. -/
theorem count_requested (events : List (Event Command)) (id : String) :
    (requests (monitor client) settings events).count
        (.followUp (reached (monitor client) settings events).batch (.session id)) =
      (shown client settings events).sessions.items.count id := by
  induction events using List.reverseRecOn with
  | nil => rfl
  | append_singleton events event ih =>
      have hbatch := (@sessionsSound client settings events).batch
      have hbatch' := (@sessionsSound client settings (events ++ [event])).batch
      rw [requests_concat, List.count_append]
      rcases requests_by_entry client settings events event with
        ⟨hkept, hnone⟩ | ⟨hreplaced, hrequests⟩
      · rw [List.count_eq_zero_of_not_mem (hnone _ _), Nat.add_zero, hbatch', hkept, ← hbatch, ih]
      · have hnew : (reached (monitor client) settings events).batch <
            (reached (monitor client) settings (events ++ [event])).batch := by
          rw [hbatch, hbatch', hreplaced]
          exact Nat.lt_succ_self _
        rw [List.count_eq_zero_of_not_mem (not_issued_of_lt events hnew _), Nat.zero_add,
          hrequests, count_sessions]

/-- How often an event asks for a session in what is the latest batch then. -/
def timesAsked (client : String) (settings : PollSettings) (events : List (Event Command))
    (event : Event Command) (id : String) : Nat :=
  (effectAfter (monitor client) settings events event).requests.count
    (.followUp (reached (monitor client) settings (events ++ [event])).batch (.session id))

/-! ## Answers -/

/-- What is known about a session was answered. -/
theorem answered_of_known {events : List (Event Command)} {id : String} {detail : SessionDetail}
    (h : (shown client settings events).sessionInfo.find? id = some detail) :
    Request.followUp (reached (monitor client) settings events).batch (.session id) ∈
      answered events := by
  obtain ⟨_, before, install, later, response, hinstalled, hmem, _⟩ :=
    (sessionsSound events).known id detail h
  have hevent := List.mem_append_right before (List.mem_cons_of_mem install hmem)
  rw [← hinstalled.split] at hevent
  exact mem_answered hevent

/-- As long as its request is on its way, nothing is known about a session that is listed once. -/
theorem unknown_of_listed_once {events : List (Event Command)} {inFlight : List Request}
    {id : String} (run : Run (monitor client) settings events inFlight)
    (hwaiting : Request.followUp (reached (monitor client) settings events).batch (.session id) ∈
      inFlight)
    (honce : (shown client settings events).sessions.items.count id = 1) :
    (shown client settings events).sessionInfo.find? id = none := by
  by_contra hknown
  obtain ⟨detail, hfind⟩ := Option.ne_none_iff_exists'.mp hknown
  have hanswered := List.count_pos_iff.mpr (answered_of_known hfind)
  have hpending := List.count_pos_iff.mpr hwaiting
  -- one request was issued, and it cannot be both answered and on its way
  have htotal := run.accounts (reached (monitor client) settings events).batch (.session id)
  rw [count_requested, honce] at htotal
  omega

theorem View.file_eq_iff {view : View} {id : String} {detail : SessionDetail}
    (haddresses : view.addresses = SessionDetail.addresses view.sessionInfo.values) :
    view.file id detail = view ↔ view.sessionInfo.find? id = some detail := by
  constructor
  · intro h
    rw [← congrArg View.sessionInfo h]
    exact (Table.find?_insert ..).trans (if_pos rfl)
  · intro hknown
    have hinfo : view.sessionInfo.insert id detail = view.sessionInfo := by
      apply Table.ext_find?
      intro other
      rw [Table.find?_insert]
      split
      · rename_i heq
        rw [← heq, hknown]
      · rfl
    unfold View.file
    rw [hinfo, ← haddresses]

/-- What is announced upon an answer is the detail of a listed session. -/
theorem filed_of_announced {loop : PollLoop View} {batch : Nat} {endpoint : Endpoint}
    {result : Fetched Json}
    (h : (step (monitor client) settings loop (.followUp batch endpoint result)).notified = true) :
    batch = loop.batch ∧ ∃ id response detail, endpoint = .session id ∧ result = .ok response ∧
      SessionDetail.decode response = .ok detail ∧ id ∈ loop.feed.view.sessions.items ∧
      (step (monitor client) settings loop (.followUp batch endpoint result)).loop.feed.view =
        loop.feed.view.file id detail := by
  have hacts := acts_step (monitor client) settings loop (.followUp batch endpoint result)
  generalize step (monitor client) settings loop (.followUp batch endpoint result) = effect
    at hacts h ⊢
  cases hacts with
  | discarded other log => exact nomatch h
  | unfiled failed log => exact nomatch h
  | @filed _ response view changed filed =>
      rcases applyFollowUp_cases filed with ⟨_, rfl⟩ | ⟨id, detail, rfl, hlisted, hdecode, rfl, _⟩
      · exact nomatch h
      · exact ⟨rfl, id, response, detail, rfl, rfl, hdecode, hlisted, rfl⟩

/-- Whenever the list of sessions is replaced, there is one request for each of its entries, so each
session is asked for once exactly if none is repeated; nothing else asks for sessions. An answer
that is announced tells about a listed session. It leaves the view as it was exactly if it tells
what is known already, which it never does about a session that is listed once. -/
theorem details_requested_by_entry {client : String} {settings : PollSettings} :
    (∀ events event,
      (shown client settings (events ++ [event])).sessions =
          (shown client settings events).sessions ∧
        (∀ batch endpoint, Request.followUp batch endpoint ∉
          (effectAfter (monitor client) settings events event).requests) ∨
      (shown client settings (events ++ [event])).sessions.generation =
          (shown client settings events).sessions.generation + 1 ∧
        (effectAfter (monitor client) settings events event).requests =
          (shown client settings (events ++ [event])).sessions.items.map (fun id =>
            .followUp (reached (monitor client) settings (events ++ [event])).batch
              (.session id)) ∧
        ((∀ id ∈ (shown client settings (events ++ [event])).sessions.items,
            timesAsked client settings events event id = 1) ↔
          (shown client settings (events ++ [event])).sessions.items.Nodup)) ∧
    ∀ events batch endpoint result inFlight,
      Run (monitor client) settings (events ++ [.followUp batch endpoint result]) inFlight →
      (effectAfter (monitor client) settings events
        (.followUp batch endpoint result)).notified = true →
      ∃ id response detail, endpoint = .session id ∧ result = .ok response ∧
        SessionDetail.decode response = .ok detail ∧
        id ∈ (shown client settings events).sessions.items ∧
        (shown client settings (events ++ [.followUp batch endpoint result]) =
            shown client settings events ↔
          (shown client settings events).sessionInfo.find? id = some detail) ∧
        ((shown client settings events).sessions.items.count id = 1 →
          shown client settings (events ++ [.followUp batch endpoint result]) ≠
            shown client settings events) := by
  refine ⟨?_, ?_⟩
  · intro events event
    refine (requests_by_entry client settings events event).imp_right ?_
    rintro ⟨hreplaced, hrequests⟩
    refine ⟨hreplaced, hrequests, ?_⟩
    rw [List.nodup_iff_count_eq_one]
    refine forall₂_congr fun id _ => ?_
    unfold timesAsked
    rw [hrequests, count_sessions]
  · intro events batch endpoint result inFlight run hannounced
    obtain ⟨rfl, id, response, detail, rfl, rfl, hdecode, hlisted, hview⟩ :=
      filed_of_announced hannounced
    have hshown : shown client settings (events ++ [.followUp
        (reached (monitor client) settings events).batch (.session id) (.ok response)]) =
          (shown client settings events).file id detail := by
      unfold shown
      rw [reached_concat]
      exact hview
    have hsame := @View.file_eq_iff _ id detail (@sessionsSound client settings events).addresses
    rw [hshown]
    refine ⟨id, response, detail, rfl, rfl, hdecode, hlisted, hsame, ?_⟩
    intro honce heq
    obtain ⟨onTheWay, hrun, hwaiting⟩ := Run.answers run
    have hunknown := unknown_of_listed_once hrun hwaiting honce
    rw [hsame.mp heq] at hunknown
    exact nomatch hunknown

/-- Session `b` is listed twice. -/
def listedTwice : Event Command :=
  .primary 1 (.ok (.obj [("sessions", .strings ["b", "a", "b"])]))

/-- The same answer about any session. -/
def answerAbout (id : String) : Event Command :=
  .followUp 1 (.session id) (.ok (.obj [("channels", .strings ["host:1"])]))

theorem read_listedTwice :
    (monitor "c").read (.ok (.obj [("sessions", .strings ["b", "a", "b"])])) =
      .ok ⟨false, ["b", "a", "b"], [], [], []⟩ := by
  decide +kernel

theorem ascending_listedTwice : ReconciledList.ascending ["b", "a", "b"] = ["a", "b", "b"] := by
  rw [@ReconciledList.ascending_congr _ _ _ ["a", "b", "b"] (by decide)]
  exact List.mergeSort_of_pairwise (by decide)

theorem reached_listedTwice (later : List (Event Command)) :
    reached (monitor "c") .standard ([.tick] ++ listedTwice :: later) =
      run (monitor "c") .standard (listing "c" .standard ["a", "b", "b"]) later :=
  reached_listing read_listedTwice ascending_listedTwice (by decide) later

theorem listedTwice_run :
    Run (monitor "c") .standard [.tick, listedTwice, answerAbout "b", answerAbout "a"]
      [.followUp 1 (.session "b")] := by
  have hlisted : Run (monitor "c") .standard [.tick, listedTwice]
      [.followUp 1 (.session "a"), .followUp 1 (.session "b"), .followUp 1 (.session "b")] :=
    listing_run read_listedTwice ascending_listedTwice (by decide)
  have hfirst := @Run.followUp_answered _ _ _ _ _ _ [.followUp 1 (.session "a")]
    [.followUp 1 (.session "b")] 1 (.session "b") hlisted
    (.ok (.obj [("channels", .strings ["host:1"])]))
  exact @Run.followUp_answered _ _ _ _ _ _ [] [.followUp 1 (.session "b")] 1 (.session "a") hfirst
    (.ok (.obj [("channels", .strings ["host:1"])]))

/-- The answer about `a`, which is listed once, changes the view. -/
theorem answer_about_single_changes :
    Run (monitor "c") .standard [.tick, listedTwice, answerAbout "b", answerAbout "a"]
        [.followUp 1 (.session "b")] ∧
      (effectAfter (monitor "c") .standard [.tick, listedTwice, answerAbout "b"]
        (answerAbout "a")).notified = true ∧
      (shown "c" .standard [.tick, listedTwice, answerAbout "b"]).sessions.items.count "a" = 1 ∧
      shown "c" .standard [.tick, listedTwice, answerAbout "b", answerAbout "a"] ≠
        shown "c" .standard [.tick, listedTwice, answerAbout "b"] := by
  have hbefore := reached_listedTwice [answerAbout "b"]
  rw [List.singleton_append] at hbefore
  have hannounced : (effectAfter (monitor "c") .standard [.tick, listedTwice, answerAbout "b"]
      (answerAbout "a")).notified = true := by
    unfold effectAfter
    rw [hbefore]
    decide +kernel
  have honce : (shown "c" .standard [.tick, listedTwice, answerAbout "b"]).sessions.items.count
      "a" = 1 := by
    unfold shown
    rw [hbefore]
    decide +kernel
  obtain ⟨_, hanswers⟩ := @details_requested_by_entry "c" .standard
  obtain ⟨id, _, _, hid, _, _, _, _, hchanges⟩ :=
    hanswers [.tick, listedTwice, answerAbout "b"] _ _ _ _ listedTwice_run hannounced
  obtain rfl := Endpoint.session.inj hid
  exact ⟨listedTwice_run, hannounced, honce, hchanges honce⟩

/-- `b` is asked for twice when the sessions come to be listed, and the second answer about it is
announced although it leaves the view as it was. -/
theorem repeated_session_asked_twice :
    Run (monitor "c") .standard
        [.tick, listedTwice, answerAbout "b", answerAbout "a", answerAbout "b"] [] ∧
      (shown "c" .standard [.tick]).sessions.generation = 0 ∧
      (shown "c" .standard [.tick, listedTwice]).sessions = ⟨["a", "b", "b"], 1⟩ ∧
      timesAsked "c" .standard [.tick] listedTwice "b" = 2 ∧
      (effectAfter (monitor "c") .standard
        [.tick, listedTwice, answerAbout "b", answerAbout "a"] (answerAbout "b")).notified = true ∧
      shown "c" .standard
          [.tick, listedTwice, answerAbout "b", answerAbout "a", answerAbout "b"] =
        shown "c" .standard [.tick, listedTwice, answerAbout "b", answerAbout "a"] := by
  have hrun := @Run.followUp_answered _ _ _ _ _ _ [] [] 1 (.session "b") listedTwice_run
    (.ok (.obj [("channels", .strings ["host:1"])]))
  have hlisted := reached_listedTwice []
  have hbefore := reached_listedTwice [answerAbout "b", answerAbout "a"]
  have hafter := reached_listedTwice [answerAbout "b", answerAbout "a", answerAbout "b"]
  have heffect : effectAfter (monitor "c") .standard [.tick] listedTwice = _ :=
    effect_listing read_listedTwice ascending_listedTwice (by decide)
  simp only [List.singleton_append] at hlisted hbefore hafter
  refine ⟨hrun, rfl, ?_, ?_, ?_, ?_⟩
  · unfold shown
    rw [hlisted]
    rfl
  · unfold timesAsked
    rw [heffect, List.singleton_append, hlisted]
    decide +kernel
  · unfold effectAfter
    rw [hbefore]
    decide +kernel
  · unfold shown
    rw [hbefore, hafter]
    decide +kernel

end NfsWatch.ClientSummary
