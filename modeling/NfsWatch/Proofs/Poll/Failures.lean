import NfsWatch.Proofs.Poll.Run

/-!
# Runs without their failures

A completion fails if nothing arrives or if what arrives does not decode. Deleting the completions
that fail from a run leaves a run (`WithoutFailures.run`), which ends where the run itself ends but
for the count of failures, the last error and the stale flag (`reached_kept`), and in which the same
requests are issued (`requests_kept`). What else is announced with the failures than without them
are flips of the stale flag (`notified_failed`, `notified_kept`).
-/

namespace NfsWatch.PollLoop

variable {P V C : Type} {monitor : Monitor P V C} {settings : PollSettings}

/-- A completion that failed when it came in. -/
inductive FailedCompletion (monitor : Monitor P V C) (loop : PollLoop V) : Event C → Prop
  /-- What a tick requested did not arrive or does not decode. -/
  | primary {tick : Nat} {result : Fetched Json} {error : FetchError}
      (read : monitor.read result = .error error) :
      FailedCompletion monitor loop (.primary tick result)
  /-- What a batch requested did not arrive. -/
  | lost {batch : Nat} {endpoint : Endpoint} {error : FetchError} :
      FailedCompletion monitor loop (.followUp batch endpoint (.error error))
  /-- It arrived and does not decode. A response of the latest batch is offered to the view that is
  shown; one of an older batch is not looked at, so any view may tell that it does not decode. -/
  | unread {batch : Nat} {endpoint : Endpoint} {response : Json} {view : V} {error : FetchError}
      (offered : batch = loop.batch → view = loop.feed.view)
      (refused : monitor.applyFollowUp view endpoint response = .error error) :
      FailedCompletion monitor loop (.followUp batch endpoint (.ok response))

/-- The loop as if nothing had failed since the last success. -/
def refreshed (loop : PollLoop V) : PollLoop V :=
  { loop with feed := { loop.feed with health :=
      { loop.feed.health with failures := 0, stale := false, lastError := none } } }

/-- Whether an event makes the stale flag flip. -/
def flips (monitor : Monitor P V C) (settings : PollSettings) (loop : PollLoop V)
    (event : Event C) : Bool :=
  (step monitor settings loop event).loop.feed.health.stale != loop.feed.health.stale

/-! ## One event -/

variable (settings) in
/-- A completion that fails changes at most the freshness, issues nothing, and is announced exactly
if the stale flag flips. -/
theorem step_failed {loop : PollLoop V} {event : Event C}
    (h : FailedCompletion monitor loop event) :
    (step monitor settings loop event).loop.refreshed = loop.refreshed ∧
      (step monitor settings loop event).requests = [] ∧
      (step monitor settings loop event).notified = flips monitor settings loop event := by
  unfold flips
  have hacts := acts_step monitor settings loop event
  generalize step monitor settings loop event = effect at hacts ⊢
  cases hacts with
  | failure current read => exact ⟨rfl, rfl, rfl⟩
  | superseded overtaken log => exact ⟨rfl, rfl, (bne_self_eq_false _).symm⟩
  | discarded other log => exact ⟨rfl, rfl, (bne_self_eq_false _).symm⟩
  | unfiled failed log => exact ⟨rfl, rfl, (bne_self_eq_false _).symm⟩
  | payload current read =>
      cases h with
      | primary failed =>
          rw [read] at failed
          exact nomatch failed
  | filed filed =>
      cases h with
      | unread offered refused =>
          rw [offered rfl, filed] at refused
          exact nomatch refused
  | tick => exact nomatch h
  | command command => exact nomatch h

variable (settings) in
/-- Any other event does to a loop as if nothing had failed what it does to the loop itself, and is
announced for the same reason or because the stale flag flips. -/
theorem step_refreshed {loop : PollLoop V} {event : Event C}
    (h : ¬ FailedCompletion monitor loop event) :
    (step monitor settings loop.refreshed event).loop =
        (step monitor settings loop event).loop.refreshed ∧
      (step monitor settings loop.refreshed event).requests =
        (step monitor settings loop event).requests ∧
      (step monitor settings loop event).notified =
        ((step monitor settings loop.refreshed event).notified ||
          flips monitor settings loop event) := by
  unfold flips
  have hacts := acts_step monitor settings loop event
  generalize step monitor settings loop event = effect at hacts ⊢
  cases hacts with
  | @payload tick result payload current read =>
      have hstep : step monitor settings loop.refreshed (.primary tick result) =
          onPayload monitor loop.refreshed tick payload := step_payload current read
      rw [hstep]
      refine ⟨rfl, rfl, ?_⟩
      -- without failures there is nothing to recover from
      show ((monitor.apply loop.feed.view payload).changed || loop.feed.health.stale) =
        (((monitor.apply loop.feed.view payload).changed || false) ||
          (false != loop.feed.health.stale))
      rw [Bool.or_false, Bool.false_bne]
  | @superseded tick result overtaken log =>
      have hstep : step monitor settings loop.refreshed (.primary tick result) =
          ⟨loop.refreshed, false, [], _⟩ := step_superseded result overtaken
      rw [hstep]
      exact ⟨rfl, rfl, (bne_self_eq_false _).symm⟩
  | @discarded batch endpoint result other log =>
      have hstep : step monitor settings loop.refreshed (.followUp batch endpoint result) =
          ⟨loop.refreshed, false, [], _⟩ := step_discarded endpoint result other
      rw [hstep]
      exact ⟨rfl, rfl, (bne_self_eq_false _).symm⟩
  | @filed endpoint response view changed filed =>
      have hfiled : (Except.ok response : Fetched Json).bind
          (monitor.applyFollowUp loop.refreshed.feed.view endpoint) = .ok (view, changed) := filed
      have hstep : step monitor settings loop.refreshed
          (.followUp loop.batch endpoint (.ok response)) =
            ⟨{ loop.refreshed with feed := { loop.refreshed.feed with view } }, changed, [], []⟩ :=
        step_filed hfiled
      rw [hstep]
      refine ⟨rfl, rfl, ?_⟩
      show changed = (changed || (loop.feed.health.stale != loop.feed.health.stale))
      rw [bne_self_eq_false, Bool.or_false]
  | command command =>
      refine ⟨rfl, rfl, ?_⟩
      show (monitor.command loop.feed.view command).2 =
        ((monitor.command loop.feed.view command).2 ||
          (loop.feed.health.stale != loop.feed.health.stale))
      rw [bne_self_eq_false, Bool.or_false]
  | tick => exact ⟨rfl, rfl, (bne_self_eq_false _).symm⟩
  | failure current read => exact absurd (.primary read) h
  | @unfiled endpoint result error failed log =>
      cases result with
      | error error => exact absurd .lost h
      | ok response => exact absurd (.unread (fun _ => rfl) failed) h

/-! ## Whole runs -/

/-- What is left of the events when all completions that failed are deleted. -/
inductive WithoutFailures (monitor : Monitor P V C) (settings : PollSettings) :
    List (Event C) → List (Event C) → Prop
  | nil : WithoutFailures monitor settings [] []
  | deleted {events kept : List (Event C)} {event : Event C} :
      WithoutFailures monitor settings events kept →
      FailedCompletion monitor (reached monitor settings events) event →
      WithoutFailures monitor settings (events ++ [event]) kept
  | kept {events kept : List (Event C)} {event : Event C} :
      WithoutFailures monitor settings events kept →
      ¬ FailedCompletion monitor (reached monitor settings events) event →
      WithoutFailures monitor settings (events ++ [event]) (kept ++ [event])

/-- The failures of a run can be deleted. -/
theorem exists_withoutFailures (monitor : Monitor P V C) (settings : PollSettings)
    (events : List (Event C)) : ∃ kept, WithoutFailures monitor settings events kept := by
  induction events using List.reverseRecOn with
  | nil => exact ⟨[], .nil⟩
  | append_singleton events event ih =>
      obtain ⟨kept, hkept⟩ := ih
      by_cases hfailed : FailedCompletion monitor (reached monitor settings events) event
      · exact ⟨kept, hkept.deleted hfailed⟩
      · exact ⟨kept ++ [event], hkept.kept hfailed⟩

/-- All requests that the events cause, in the order of issue. -/
def requestsFrom (monitor : Monitor P V C) (settings : PollSettings) (loop : PollLoop V) :
    List (Event C) → List Request
  | [] => []
  | event :: later =>
      (step monitor settings loop event).requests ++
        requestsFrom monitor settings (step monitor settings loop event).loop later

/-- All requests since the start. -/
def requests (monitor : Monitor P V C) (settings : PollSettings) (events : List (Event C)) :
    List Request :=
  requestsFrom monitor settings (start monitor settings) events

theorem requests_concat (events : List (Event C)) (event : Event C) :
    requests monitor settings (events ++ [event]) =
      requests monitor settings events ++ (effectAfter monitor settings events event).requests := by
  suffices h : ∀ loop : PollLoop V, requestsFrom monitor settings loop (events ++ [event]) =
      requestsFrom monitor settings loop events ++
        (step monitor settings (run monitor settings loop events) event).requests from h _
  induction events with
  | nil =>
      intro loop
      exact List.append_nil _
  | cons first later ih =>
      intro loop
      rw [List.cons_append, requestsFrom, requestsFrom, ih, List.append_assoc]
      rfl

variable {events kept : List (Event C)} {event : Event C}

/-- Without its failures a run ends where it ends as if nothing had failed. -/
theorem WithoutFailures.reached_kept (h : WithoutFailures monitor settings events kept) :
    reached monitor settings kept = (reached monitor settings events).refreshed := by
  induction h with
  | nil => rfl
  | deleted _ hfailed ih =>
      rw [ih, reached_concat]
      exact (step_failed settings hfailed).1.symm
  | kept _ hkept ih =>
      rw [reached_concat, reached_concat]
      unfold effectAfter
      rw [ih]
      exact (step_refreshed settings hkept).1

/-- What is kept issues what it issues in the whole run. -/
theorem WithoutFailures.requests_next (h : WithoutFailures monitor settings events kept)
    (hkept : ¬ FailedCompletion monitor (reached monitor settings events) event) :
    (effectAfter monitor settings kept event).requests =
      (effectAfter monitor settings events event).requests := by
  unfold effectAfter
  rw [h.reached_kept]
  exact (step_refreshed settings hkept).2.1

/-- Failures cause no requests. -/
theorem WithoutFailures.requests_kept (h : WithoutFailures monitor settings events kept) :
    requests monitor settings kept = requests monitor settings events := by
  induction h with
  | nil => rfl
  | deleted _ hfailed ih =>
      rw [ih, requests_concat]
      unfold effectAfter
      rw [(step_failed settings hfailed).2.1, List.append_nil]
  | kept hbefore hkept ih =>
      rw [requests_concat, requests_concat, ih, hbefore.requests_next hkept]

/-- A failure that comes next is announced exactly if the stale flag flips. -/
theorem notified_failed
    (hfailed : FailedCompletion monitor (reached monitor settings events) event) :
    (effectAfter monitor settings events event).notified =
      flips monitor settings (reached monitor settings events) event :=
  (step_failed settings hfailed).2.2

/-- Anything else that comes next is announced if it is so without the failures, and otherwise
exactly if the stale flag flips. -/
theorem WithoutFailures.notified_kept (h : WithoutFailures monitor settings events kept)
    (hkept : ¬ FailedCompletion monitor (reached monitor settings events) event) :
    (effectAfter monitor settings events event).notified =
      ((effectAfter monitor settings kept event).notified ||
        flips monitor settings (reached monitor settings events) event) := by
  unfold effectAfter
  rw [h.reached_kept]
  exact (step_refreshed settings hkept).2.2

/-- The last event was deleted because it failed, or kept because it did not. -/
theorem WithoutFailures.concat_cases
    (h : WithoutFailures monitor settings (events ++ [event]) kept) :
    (FailedCompletion monitor (reached monitor settings events) event ∧
        WithoutFailures monitor settings events kept) ∨
      ∃ earlier, kept = earlier ++ [event] ∧ WithoutFailures monitor settings events earlier ∧
        ¬ FailedCompletion monitor (reached monitor settings events) event := by
  generalize hall : events ++ [event] = all at h
  cases h with
  | nil => exact absurd hall (by simp)
  | deleted hbefore hfailed =>
      obtain ⟨rfl, hlast⟩ := List.append_inj' hall rfl
      cases List.singleton_inj.mp hlast
      exact Or.inl ⟨hfailed, hbefore⟩
  | kept hbefore hkept =>
      obtain ⟨rfl, hlast⟩ := List.append_inj' hall rfl
      cases List.singleton_inj.mp hlast
      exact Or.inr ⟨_, rfl, hbefore, hkept⟩

/-- Without its failures a run is a run, in which the requests that failed stay on their way. -/
theorem WithoutFailures.run {inFlight : List Request} (hrun : Run monitor settings events inFlight)
    (h : WithoutFailures monitor settings events kept) :
    ∃ onTheWay, Run monitor settings kept onTheWay ∧ inFlight.Sublist onTheWay := by
  induction hrun generalizing kept with
  | start =>
      generalize hnone : ([] : List (Event C)) = none at h
      cases h with
      | nil => exact ⟨[], .start, .refl []⟩
      | deleted => exact absurd hnone (by simp)
      | kept => exact absurd hnone (by simp)
  | tick _ ih =>
      rcases h.concat_cases with ⟨hfailed, _⟩ | ⟨earlier, rfl, hbefore, hkept⟩
      · exact nomatch hfailed
      · obtain ⟨onTheWay, hrun, hsub⟩ := ih hbefore
        refine ⟨_, hrun.tick, ?_⟩
        rw [hbefore.requests_next hkept]
        exact hsub.append_right _
  | command command _ ih =>
      rcases h.concat_cases with ⟨hfailed, _⟩ | ⟨earlier, rfl, hbefore, hkept⟩
      · exact nomatch hfailed
      · obtain ⟨onTheWay, hrun, hsub⟩ := ih hbefore
        refine ⟨_, hrun.command command, ?_⟩
        rw [hbefore.requests_next hkept]
        exact hsub.append_right _
  | @completed events earlier later request result _ ih =>
      rcases h.concat_cases with ⟨hfailed, hbefore⟩ | ⟨kept, rfl, hbefore, hkept⟩
      · -- the request is not answered in what is left
        obtain ⟨onTheWay, hrun, hsub⟩ := ih hbefore
        refine ⟨onTheWay, hrun, ?_⟩
        unfold effectAfter
        rw [(step_failed settings hfailed).2.1, List.append_nil]
        exact ((List.sublist_cons_self request later).append_left earlier).trans hsub
      · obtain ⟨onTheWay, hrun, hsub⟩ := ih hbefore
        obtain ⟨first, rest, rfl, hfirst, hrest⟩ := List.append_sublist_iff.mp hsub
        obtain ⟨upTo, others, rfl, hmem, hothers⟩ := List.cons_sublist_iff.mp hrest
        obtain ⟨waiting, between, rfl⟩ := List.append_of_mem hmem
        have hsplit : first ++ (waiting ++ request :: between ++ others) =
            (first ++ waiting) ++ request :: (between ++ others) := by simp
        refine ⟨_, Run.completed result (hsplit ▸ hrun), ?_⟩
        rw [hbefore.requests_next hkept]
        refine List.Sublist.append_right ?_ _
        exact (hfirst.trans (List.sublist_append_left first waiting)).append
          (hothers.trans (List.sublist_append_right between others))

end NfsWatch.PollLoop
