import NfsWatch.Proofs.Monitor.SessionBatches
import NfsWatch.Proofs.Poll.Failures

/-!
# Failures leave no trace

For the summary of a client a response to a follow-up request failed exactly if it is no session
detail: the sessions that the latest batch asked for are listed as long as it is the latest one
(`session_listed`), so each of its responses is looked at. `failures_leave_no_trace` adds this to
what deleting the failures from a run does in general.
-/

namespace NfsWatch

namespace ClientSummary

open PollLoop

variable {client : String} {settings : PollSettings}

/-! ## The sessions of the latest batch -/

theorem SessionsStep.sessions_eq {event : Event Command} {requests : List Request}
    {before after : View × Nat} (h : SessionsStep event requests before after)
    (hbatch : after.2 = before.2) : after.1.sessions = before.1.sessions := by
  cases h with
  | kept sessions info addresses => exact sessions
  | installed ids sessions info addresses requested => exact absurd hbatch (Nat.succ_ne_self _)
  | filed listed answered decoded => rfl

theorem SessionsStep.requests_eq {event : Event Command} {requests : List Request}
    {before after : View × Nat} (h : SessionsStep event requests before after)
    (hbatch : after.2 ≠ before.2) :
    requests = after.1.sessions.items.map fun id => .followUp after.2 (.session id) := by
  cases h with
  | kept sessions info addresses => exact absurd rfl hbatch
  | installed ids sessions info addresses requested => rw [requested, sessions]
  | filed listed answered decoded => exact absurd rfl hbatch

theorem sessionsStep_concat (events : List (Event Command)) (event : Event Command) :
    SessionsStep event (effectAfter (monitor client) settings events event).requests
      (shown client settings events, (reached (monitor client) settings events).batch)
      (shown client settings (events ++ [event]),
        (reached (monitor client) settings (events ++ [event])).batch) := by
  have hstep := sessionsStep _ _ (acts_effectAfter (monitor client) settings events event)
  rw [← reached_concat] at hstep
  exact hstep

/-- The sessions stay as long as the batch does. -/
theorem sessions_eq_of_batch_eq {before later : List (Event Command)}
    (h : (reached (monitor client) settings (before ++ later)).batch =
      (reached (monitor client) settings before).batch) :
    (shown client settings (before ++ later)).sessions =
      (shown client settings before).sessions := by
  induction later using List.reverseRecOn with
  | nil => rw [List.append_nil]
  | append_singleton later event ih =>
      rw [← List.append_assoc] at h ⊢
      -- the number of the batch never falls, so it was the same just before the event
      have hfirst := @batch_mono _ _ _ (monitor client) settings before later
      have hlast := @batch_mono _ _ _ (monitor client) settings (before ++ later) [event]
      rw [h] at hlast
      have hbetween := Nat.le_antisymm hlast hfirst
      have hstep := @sessionsStep_concat client settings (before ++ later) event
      exact (hstep.sessions_eq (h.trans hbetween.symm)).trans (ih hbetween)

/-- A session that the latest batch asked for is listed. -/
theorem session_listed {events : List (Event Command)} {inFlight : List Request} {id : String}
    (run : Run (monitor client) settings events inFlight)
    (h : Request.followUp (reached (monitor client) settings events).batch (.session id) ∈
      inFlight) : id ∈ (shown client settings events).sessions.items := by
  obtain ⟨before, issuer, later, rfl, hissued⟩ := run.issued h
  obtain ⟨hraised, hbatch⟩ := batch_of_issued hissued
  have hsplit : before ++ issuer :: later = (before ++ [issuer]) ++ later := by simp
  rw [hsplit] at hissued hraised hbatch ⊢
  have hissuer : (reached (monitor client) settings (before ++ [issuer])).batch ≠
      (reached (monitor client) settings before).batch := by
    rw [hbatch, hraised]
    exact Nat.succ_ne_self _
  rw [(sessionsStep_concat before issuer).requests_eq hissuer] at hissued
  obtain ⟨listed, hmem, heq⟩ := List.mem_map.mp hissued
  obtain rfl := Endpoint.session.inj (Request.followUp.inj heq).2
  rw [sessions_eq_of_batch_eq hbatch.symm]
  exact hmem

/-! ## Responses that failed -/

/-- A view refuses the detail of a session only because it does not decode, and then does so if the
session is listed. -/
theorem applyFollowUp_refused {view : View} {id : String} {response : Json} :
    (∃ error, applyFollowUp view (.session id) response = .error error) ↔
      id ∈ view.sessions.items ∧ ∃ cause, SessionDetail.decode response = .error cause := by
  by_cases hmem : id ∈ view.sessions.items
  · cases hdecode : SessionDetail.decode response with
    | ok detail => simp [applyFollowUp_listed hmem hdecode]
    | error cause => simp [applyFollowUp_undecoded hmem hdecode, hmem]
  · simp [applyFollowUp_unlisted hmem, hmem]

/-- A response about a session failed exactly if it is no session detail, whatever its batch. -/
theorem failed_detail_iff {events : List (Event Command)} {inFlight : List Request}
    {batch : Nat} {id : String} {response : Json}
    (run : Run (monitor client) settings events inFlight)
    (h : Request.followUp batch (.session id) ∈ inFlight) :
    FailedCompletion (monitor client) (reached (monitor client) settings events)
        (.followUp batch (.session id) (.ok response)) ↔
      ∃ cause, SessionDetail.decode response = .error cause := by
  constructor
  · intro hfailed
    cases hfailed with
    | unread offered refused => exact (applyFollowUp_refused.mp ⟨_, refused⟩).2
  · intro hcause
    by_cases hbatch : batch = (reached (monitor client) settings events).batch
    · have hlisted : id ∈ (shown client settings events).sessions.items :=
        session_listed run (hbatch ▸ h)
      obtain ⟨error, hrefused⟩ := applyFollowUp_refused.mpr ⟨hlisted, hcause⟩
      exact .unread (fun _ => rfl) hrefused
    · -- a view that lists the session would refuse it
      have hlisted : id ∈ ({ View.start client with sessions := ⟨[id], 1⟩ }).sessions.items :=
        List.mem_singleton_self id
      obtain ⟨error, hrefused⟩ := applyFollowUp_refused.mpr ⟨hlisted, hcause⟩
      exact .unread (fun hsame => absurd hsame hbatch) hrefused

end ClientSummary

open PollLoop

/-- Deleting all completions that failed from a run of any feed leaves a run. It ends with the same
view, tick numbers and batch, and with the same freshness but for the count of failures, the last
error and the stale flag, and the same requests are issued in it. What is announced besides are
flips of the stale flag. Of the responses about sessions those failed that are no session detail. -/
theorem failures_leave_no_trace :
    (∀ {P V C : Type} (monitor : Monitor P V C) (settings : PollSettings)
        (events : List (Event C)) (inFlight : List Request), Run monitor settings events inFlight →
      (∃ kept, WithoutFailures monitor settings events kept) ∧
      ∀ kept, WithoutFailures monitor settings events kept →
        (∃ onTheWay, Run monitor settings kept onTheWay ∧ inFlight.Sublist onTheWay) ∧
        reached monitor settings kept = (reached monitor settings events).refreshed ∧
        requests monitor settings kept = requests monitor settings events ∧
        ∀ event,
          (FailedCompletion monitor (reached monitor settings events) event →
            (effectAfter monitor settings events event).notified =
              flips monitor settings (reached monitor settings events) event) ∧
          (¬ FailedCompletion monitor (reached monitor settings events) event →
            (effectAfter monitor settings events event).notified =
              ((effectAfter monitor settings kept event).notified ||
                flips monitor settings (reached monitor settings events) event))) ∧
    ∀ (client : String) (settings : PollSettings) (events : List (Event ClientSummary.Command))
        (inFlight : List Request), Run (ClientSummary.monitor client) settings events inFlight →
      ∀ batch id response, Request.followUp batch (.session id) ∈ inFlight →
        (FailedCompletion (ClientSummary.monitor client)
            (reached (ClientSummary.monitor client) settings events)
            (.followUp batch (.session id) (.ok response)) ↔
          ∃ cause, SessionDetail.decode response = .error cause) := by
  refine ⟨?_, ?_⟩
  · intro P V C monitor settings events inFlight run
    refine ⟨exists_withoutFailures monitor settings events, ?_⟩
    intro kept h
    refine ⟨h.run run, h.reached_kept, h.requests_kept, ?_⟩
    intro event
    exact ⟨notified_failed, h.notified_kept⟩
  · intro client settings events inFlight run batch id response hmem
    exact ClientSummary.failed_detail_iff run hmem

/-- Session `a` is listed and asked for. The response to the second tick never arrives. -/
def secondLost : List (Event ClientSummary.Command) :=
  [.tick, .tick, .primary 1 (.ok (.obj [("sessions", .strings ["a"])])),
    .primary 2 (.error (.transport (.client "c") "refused"))]

theorem secondLost_run :
    Run (ClientSummary.monitor "c") .standard secondLost [.followUp 1 (.session "a")] := by
  have hticks : Run (ClientSummary.monitor "c") .standard [.tick, .tick]
      [.primary 1 (.client "c"), .primary 2 (.client "c")] := Run.start.tick.tick
  have hfirst := @Run.completed _ _ _ _ _ _ [] _ (.primary 1 _)
    (.ok (.obj [("sessions", .strings ["a"])])) hticks
  rw [show (effectAfter (ClientSummary.monitor "c") _ _ _).requests =
    [.followUp 1 (.session "a")] by decide +kernel] at hfirst
  have hsecond := @Run.completed _ _ _ _ _ _ [] _ (.primary 2 _)
    (.error (.transport (.client "c") "refused")) hfirst
  rw [show (effectAfter (ClientSummary.monitor "c") _ _ _).requests = [] by
    decide +kernel] at hsecond
  exact hsecond

/-- Without the response that got lost the run ends with the same session and the same request for
it. What then comes in for the session is no detail, and fails as well. -/
theorem lost_response_leaves_no_trace :
    Run (ClientSummary.monitor "c") .standard secondLost [.followUp 1 (.session "a")] ∧
      WithoutFailures (ClientSummary.monitor "c") .standard secondLost
        [.tick, .tick, .primary 1 (.ok (.obj [("sessions", .strings ["a"])]))] ∧
      reached (ClientSummary.monitor "c") .standard
          [.tick, .tick, .primary 1 (.ok (.obj [("sessions", .strings ["a"])]))] =
        (reached (ClientSummary.monitor "c") .standard secondLost).refreshed ∧
      (reached (ClientSummary.monitor "c") .standard secondLost).feed.health.failures = 1 ∧
      (∃ cause, SessionDetail.decode .null = .error cause) ∧
      FailedCompletion (ClientSummary.monitor "c")
        (reached (ClientSummary.monitor "c") .standard secondLost)
        (.followUp 1 (.session "a") (.ok .null)) := by
  have hrun := secondLost_run
  have hticked : ∀ {events : List (Event ClientSummary.Command)}, ¬ FailedCompletion
      (ClientSummary.monitor "c") (reached (ClientSummary.monitor "c") .standard events)
      .tick := by
    intro events hfailed
    exact nomatch hfailed
  have hanswered : ∀ {events : List (Event ClientSummary.Command)}, ¬ FailedCompletion
      (ClientSummary.monitor "c") (reached (ClientSummary.monitor "c") .standard events)
      (.primary 1 (.ok (.obj [("sessions", .strings ["a"])]))) := by
    intro events hfailed
    cases hfailed with
    | primary read => exact nomatch read
  have hkept : WithoutFailures (ClientSummary.monitor "c") .standard secondLost
      [.tick, .tick, .primary 1 (.ok (.obj [("sessions", .strings ["a"])]))] :=
    .deleted (((WithoutFailures.nil.kept hticked).kept hticked).kept hanswered) (.primary rfl)
  obtain ⟨hgeneral, hdetails⟩ := failures_leave_no_trace
  obtain ⟨_, hends, _⟩ := (hgeneral _ _ _ _ hrun).2 _ hkept
  have hcause : ∃ cause, SessionDetail.decode .null = .error cause := ⟨_, rfl⟩
  refine ⟨hrun, hkept, hends, by decide +kernel, hcause, ?_⟩
  exact (hdetails _ _ _ _ hrun 1 "a" .null (List.mem_singleton_self _)).mpr hcause

end NfsWatch
