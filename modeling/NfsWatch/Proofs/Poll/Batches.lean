import NfsWatch.Proofs.Poll.Run

/-!
# Batches of follow-up requests

The number of the batch only grows, by one at a time, and whatever raises it issues all the
requests of the new batch. So `issuer_unique`: the requests of a batch come from one event of the
history, and the number on a response tells which.
-/

namespace NfsWatch.PollLoop

variable {P V C : Type} {monitor : Monitor P V C} {settings : PollSettings}

variable (monitor settings) in
/-- A step starts no batch and issues no follow-up request, or it starts the next batch and issues
requests of that batch only. -/
theorem requests_batches (loop : PollLoop V) (event : Event C) :
    ((step monitor settings loop event).loop.batch = loop.batch ∧
      ∀ batch endpoint,
        Request.followUp batch endpoint ∉ (step monitor settings loop event).requests) ∨
    ((step monitor settings loop event).loop.batch = loop.batch + 1 ∧
      ∃ endpoints : List Endpoint, (step monitor settings loop event).requests =
        endpoints.map (.followUp (loop.batch + 1))) := by
  have hacts := acts_step monitor settings loop event
  generalize step monitor settings loop event = effect at hacts ⊢
  cases hacts with
  | @payload tick result payload current read =>
      cases hasked : (monitor.apply loop.feed.view payload).followUps with
      | none => exact Or.inl ⟨by simp [onPayload, hasked], by simp [onPayload, hasked]⟩
      | some endpoints =>
          exact Or.inr ⟨by simp [onPayload, hasked], endpoints, by simp [onPayload, hasked]⟩
  | tick => exact Or.inl ⟨rfl, fun _ _ hmem => nomatch List.mem_singleton.mp hmem⟩
  | superseded overtaken log => exact Or.inl ⟨rfl, fun _ _ hmem => nomatch hmem⟩
  | failure current read => exact Or.inl ⟨rfl, fun _ _ hmem => nomatch hmem⟩
  | discarded other log => exact Or.inl ⟨rfl, fun _ _ hmem => nomatch hmem⟩
  | filed filed => exact Or.inl ⟨rfl, fun _ _ hmem => nomatch hmem⟩
  | unfiled failed log => exact Or.inl ⟨rfl, fun _ _ hmem => nomatch hmem⟩
  | command command => exact Or.inl ⟨rfl, fun _ _ hmem => nomatch hmem⟩

/-- What is issued belongs to the batch that is the latest one from then on. -/
theorem batch_of_issued {events : List (Event C)} {event : Event C} {batch : Nat}
    {endpoint : Endpoint}
    (h : Request.followUp batch endpoint ∈ (effectAfter monitor settings events event).requests) :
    batch = (reached monitor settings events).batch + 1 ∧
      (reached monitor settings (events ++ [event])).batch = batch := by
  rw [reached_concat]
  rcases requests_batches monitor settings (reached monitor settings events) event with
    ⟨_, hnone⟩ | ⟨hraised, endpoints, hrequests⟩
  · exact absurd h (hnone batch endpoint)
  · unfold effectAfter at h ⊢
    rw [hrequests] at h
    obtain ⟨_, _, heq⟩ := List.mem_map.mp h
    cases heq
    exact ⟨rfl, hraised⟩

/-- The number of the batch never falls. -/
theorem batch_mono (earlier later : List (Event C)) :
    (reached monitor settings earlier).batch ≤
      (reached monitor settings (earlier ++ later)).batch := by
  induction later using List.reverseRecOn with
  | nil => exact Nat.le_of_eq (by rw [List.append_nil])
  | append_singleton later event ih =>
      rw [← List.append_assoc, reached_concat]
      refine Nat.le_trans ih ?_
      unfold effectAfter
      rcases requests_batches monitor settings
          (reached monitor settings (earlier ++ later)) event with ⟨hkept, _⟩ | ⟨hraised, _⟩
      · exact Nat.le_of_eq hkept.symm
      · exact Nat.le_of_lt (hraised ▸ Nat.lt_succ_self _)

/-- An event that issues requests of a batch comes before all of the same and later batches. -/
theorem issued_lt {before between : List (Event C)} {event other : Event C}
    {batch later : Nat} {endpoint endpoint' : Endpoint}
    (h : Request.followUp batch endpoint ∈ (effectAfter monitor settings before event).requests)
    (hlater : Request.followUp later endpoint' ∈
      (effectAfter monitor settings (before ++ event :: between) other).requests) :
    batch < later := by
  have hmono := @batch_mono _ _ _ monitor settings (before ++ [event]) between
  rw [List.append_assoc, List.singleton_append, (batch_of_issued h).2] at hmono
  rw [(batch_of_issued hlater).1]
  omega

/-- The requests of a batch come from one event of the history. -/
theorem issuer_unique {before before' later later' : List (Event C)} {event event' : Event C}
    {batch : Nat} {endpoint endpoint' : Endpoint}
    (hsplit : before ++ event :: later = before' ++ event' :: later')
    (h : Request.followUp batch endpoint ∈ (effectAfter monitor settings before event).requests)
    (h' : Request.followUp batch endpoint' ∈
      (effectAfter monitor settings before' event').requests) : before = before' := by
  -- of two events that issued requests of the batch, the later one would have raised its number
  rcases List.append_eq_append_iff.mp hsplit with ⟨rest, rfl, hrest⟩ | ⟨rest, rfl, hrest⟩
  · cases rest with
    | nil => exact (List.append_nil _).symm
    | cons first rest =>
        obtain ⟨rfl, _⟩ := List.cons.inj hrest
        exact absurd (issued_lt h h') (Nat.lt_irrefl batch)
  · cases rest with
    | nil => exact List.append_nil _
    | cons first rest =>
        obtain ⟨rfl, _⟩ := List.cons.inj hrest
        exact absurd (issued_lt h' h) (Nat.lt_irrefl batch)

/-! ## Requests on their way -/

/-- Some event issued the request. -/
def Issued (monitor : Monitor P V C) (settings : PollSettings) (events : List (Event C))
    (request : Request) : Prop :=
  ∃ before event later, events = before ++ event :: later ∧
    request ∈ (effectAfter monitor settings before event).requests

theorem Issued.concat {events : List (Event C)} {request : Request} (event : Event C)
    (h : Issued monitor settings events request ∨
      request ∈ (effectAfter monitor settings events event).requests) :
    Issued monitor settings (events ++ [event]) request := by
  rcases h with ⟨before, issuer, later, rfl, hmem⟩ | hmem
  · exact ⟨before, issuer, later ++ [event], by simp, hmem⟩
  · exact ⟨events, event, [], rfl, hmem⟩

variable (monitor settings) in
/-- The responses to a batch cause no requests. -/
theorem requests_followUp (loop : PollLoop V) (batch : Nat) (endpoint : Endpoint)
    (result : Fetched Json) :
    (step monitor settings loop (Event.followUp batch endpoint result : Event C)).requests =
      [] := by
  have hacts := acts_step monitor settings loop (Event.followUp batch endpoint result : Event C)
  generalize step monitor settings loop (Event.followUp batch endpoint result : Event C) = effect
    at hacts ⊢
  cases hacts with
  | discarded other log => rfl
  | filed filed => rfl
  | unfiled failed log => rfl

/-- A response to a batch only takes its request off. -/
theorem Run.followUp_answered {events : List (Event C)} {earlier later : List Request} {batch : Nat}
    {endpoint : Endpoint}
    (h : Run monitor settings events (earlier ++ .followUp batch endpoint :: later))
    (result : Fetched Json) :
    Run monitor settings (events ++ [.followUp batch endpoint result]) (earlier ++ later) := by
  have hcompleted := h.completed result
  have hnone : (effectAfter monitor settings events
      ((Request.followUp batch endpoint).completed result)).requests = [] :=
    requests_followUp monitor settings _ batch endpoint result
  rw [hnone, List.append_nil] at hcompleted
  exact hcompleted

/-- What is on its way was issued. -/
theorem Run.issued {events : List (Event C)} {inFlight : List Request}
    (h : Run monitor settings events inFlight) {request : Request} (hmem : request ∈ inFlight) :
    Issued monitor settings events request := by
  induction h with
  | start => exact nomatch hmem
  | tick _ ih => exact Issued.concat _ ((List.mem_append.mp hmem).imp_left ih)
  | command command _ ih => exact Issued.concat _ ((List.mem_append.mp hmem).imp_left ih)
  | @completed events earlier later completed result _ ih =>
      refine Issued.concat _ ((List.mem_append.mp hmem).imp_left fun hold => ih ?_)
      rcases List.mem_append.mp hold with hmem | hmem
      · exact List.mem_append_left _ hmem
      · exact List.mem_append_right _ (List.mem_cons_of_mem _ hmem)

/-- A list with one more item, split at an item: this is the last one, or the split is one of the
list. -/
theorem split_concat {α : Type} {items before later : List α} {last item : α}
    (h : items ++ [last] = before ++ item :: later) :
    (items = before ∧ last = item ∧ later = []) ∨
      ∃ between, items = before ++ item :: between ∧ later = between ++ [last] := by
  rcases List.eq_nil_or_concat later with rfl | ⟨between, final, rfl⟩
  · obtain ⟨hitems, hlast⟩ := List.append_inj' h rfl
    exact Or.inl ⟨hitems, List.singleton_inj.mp hlast, rfl⟩
  · rw [List.concat_eq_append, ← List.cons_append, ← List.append_assoc] at h
    obtain ⟨hitems, hlast⟩ := List.append_inj' h rfl
    exact Or.inr ⟨between, hitems, by rw [List.concat_eq_append, hlast]⟩

/-- What was issued is on its way, or has been answered since. -/
theorem Run.waiting_or_answered {events before later : List (Event C)} {inFlight : List Request}
    {issuer : Event C} {request : Request} (h : Run monitor settings events inFlight)
    (hsplit : events = before ++ issuer :: later)
    (hissued : request ∈ (effectAfter monitor settings before issuer).requests) :
    request ∈ inFlight ∨ ∃ result, request.completed result ∈ later := by
  induction h generalizing later with
  | start => exact absurd hsplit (by simp)
  | tick _ ih =>
      rcases split_concat hsplit with ⟨rfl, rfl, _⟩ | ⟨between, hbetween, rfl⟩
      · exact Or.inl (List.mem_append_right _ hissued)
      · rcases ih hbetween with hwaiting | ⟨result, hmem⟩
        · exact Or.inl (List.mem_append_left _ hwaiting)
        · exact Or.inr ⟨result, List.mem_append_left _ hmem⟩
  | command command _ ih =>
      rcases split_concat hsplit with ⟨rfl, rfl, _⟩ | ⟨between, hbetween, rfl⟩
      · exact Or.inl (List.mem_append_right _ hissued)
      · rcases ih hbetween with hwaiting | ⟨result, hmem⟩
        · exact Or.inl (List.mem_append_left _ hwaiting)
        · exact Or.inr ⟨result, List.mem_append_left _ hmem⟩
  | @completed events first rest completed result _ ih =>
      rcases split_concat hsplit with ⟨rfl, rfl, _⟩ | ⟨between, hbetween, rfl⟩
      · exact Or.inl (List.mem_append_right _ hissued)
      · rcases ih hbetween with hwaiting | ⟨result, hmem⟩
        · rw [List.mem_append, List.mem_cons] at hwaiting
          -- it waited, so it is the request that completes or it waits on
          rcases hwaiting with hfirst | rfl | hrest
          · exact Or.inl (List.mem_append_left _ (List.mem_append_left _ hfirst))
          · exact Or.inr ⟨result, List.mem_append_right _ (List.mem_singleton_self _)⟩
          · exact Or.inl (List.mem_append_left _ (List.mem_append_right _ hrest))
        · exact Or.inr ⟨result, List.mem_append_left _ hmem⟩

/-- The request that a response answers was on its way before. -/
theorem Run.answers {before later : List (Event C)} {inFlight : List Request} {batch : Nat}
    {endpoint : Endpoint} {result : Fetched Json}
    (h : Run monitor settings (before ++ .followUp batch endpoint result :: later) inFlight) :
    ∃ onTheWay, Run monitor settings before onTheWay ∧
      Request.followUp batch endpoint ∈ onTheWay := by
  generalize hevents : before ++ Event.followUp batch endpoint result :: later = events at h
  induction h generalizing later with
  | start => exact absurd hevents (by simp)
  | tick _ ih =>
      rcases split_concat hevents.symm with ⟨_, hlast, _⟩ | ⟨between, hsplit, _⟩
      · exact nomatch hlast
      · exact ih hsplit.symm
  | command command _ ih =>
      rcases split_concat hevents.symm with ⟨_, hlast, _⟩ | ⟨between, hsplit, _⟩
      · exact nomatch hlast
      · exact ih hsplit.symm
  | @completed events earlier later request outcome hrun ih =>
      rcases split_concat hevents.symm with ⟨rfl, hlast, _⟩ | ⟨between, hsplit, _⟩
      · cases request with
        | primary tick endpoint => exact nomatch hlast
        | followUp number requested =>
            cases hlast
            exact ⟨_, hrun, List.mem_append_right _ List.mem_cons_self⟩
      · exact ih hsplit.symm

/-- No response of a batch comes in before its requests were issued. -/
theorem Run.answers_later {events before later : List (Event C)} {inFlight : List Request}
    {issuer : Event C} {batch : Nat} {endpoint : Endpoint} (result : Fetched Json)
    (h : Run monitor settings events inFlight) (hsplit : events = before ++ issuer :: later)
    (hissued : Request.followUp batch endpoint ∈
      (effectAfter monitor settings before issuer).requests) :
    Event.followUp batch endpoint result ∉ before ++ [issuer] := by
  intro hmem
  obtain ⟨asked, between, hasked⟩ := List.append_of_mem hmem
  have hevents : events = asked ++ .followUp batch endpoint result :: (between ++ later) := by
    rw [hsplit, ← List.singleton_append, ← List.append_assoc, hasked, List.append_assoc]
    rfl
  obtain ⟨onTheWay, hrun, hmem⟩ := Run.answers (hevents ▸ h)
  obtain ⟨before', issuer', later', rfl, hissued'⟩ := hrun.issued hmem
  have hsame : before = before' := by
    rw [List.append_assoc] at hevents
    exact issuer_unique (hsplit.symm.trans hevents) hissued hissued'
  have hlength := congrArg List.length hasked
  rw [hsame] at hlength
  simp only [List.length_append, List.length_cons, List.length_nil] at hlength
  omega

end NfsWatch.PollLoop
