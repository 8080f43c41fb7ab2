import NfsWatch.Proofs.Poll.Run

/-!
# What a loop folds into its view

Only three kinds of things ever reach the view of a loop: the payloads that it takes, the responses
of its current batch, and operator input. `contributions` lists them in the order in which they
were folded in, and `view_reached` says that the view is their fold and nothing else. The accepted
tick is the tick of the payload folded in last, in either sequencing mode.
-/

namespace NfsWatch

/-- One thing that is folded into a view. -/
inductive Contribution (P C : Type)
  /-- The payload of a tick. -/
  | payload (tick : Nat) (payload : P)
  /-- The response to a follow-up request. -/
  | response (endpoint : Endpoint) (response : Json)
  | command (command : C)

/-- The payload folded in, with its tick. -/
def Contribution.payload? {P C : Type} : Contribution P C → Option (Nat × P)
  | .payload number content => some (number, content)
  | _ => none

/-- Folds one thing into a view. A response that does not decode leaves the view alone. -/
def Monitor.absorb {P V C : Type} (monitor : Monitor P V C) (view : V) : Contribution P C → V
  | .payload _ payload => (monitor.apply view payload).view
  | .response endpoint response =>
      match monitor.applyFollowUp view endpoint response with
      | .ok (view, _) => view
      | .error _ => view
  | .command command => (monitor.command view command).1

/-- What filing a response leaves alone, absorbing one leaves alone. -/
theorem Monitor.absorb_response {P V C X : Type} {monitor : Monitor P V C} {part : V → X}
    (h : ∀ {view endpoint response filed changed},
      monitor.applyFollowUp view endpoint response = .ok (filed, changed) → part filed = part view)
    (view : V) (endpoint : Endpoint) (response : Json) :
    part (monitor.absorb view (.response endpoint response)) = part view := by
  cases hfiled : monitor.applyFollowUp view endpoint response with
  | ok filed =>
      simp only [Monitor.absorb, hfiled]
      exact h hfiled
  | error error => simp only [Monitor.absorb, hfiled]

namespace PollLoop

variable {P V C : Type} {monitor : Monitor P V C} {settings : PollSettings}

/-- What an event folds into the view of a loop, if anything. -/
def contribution? (monitor : Monitor P V C) (loop : PollLoop V) :
    Event C → Option (Contribution P C)
  | .tick => none
  | .primary tick result =>
      if loop.sequencer.isSuperseded tick then none
      else
        match monitor.read result with
        | .ok payload => some (.payload tick payload)
        | .error _ => none
  | .followUp batch endpoint result =>
      match result with
      | .ok response => if batch = loop.batch then some (.response endpoint response) else none
      | .error _ => none
  | .command command => some (.command command)

/-- All that the events fold into the view, oldest first. -/
def contributionsFrom (monitor : Monitor P V C) (settings : PollSettings) (loop : PollLoop V) :
    List (Event C) → List (Contribution P C)
  | [] => []
  | event :: later =>
      (contribution? monitor loop event).toList ++
        contributionsFrom monitor settings (step monitor settings loop event).loop later

/-- All that was folded into the view since the start. -/
def contributions (monitor : Monitor P V C) (settings : PollSettings) (events : List (Event C)) :
    List (Contribution P C) :=
  contributionsFrom monitor settings (start monitor settings) events

/-- The payloads folded in since the start, with their ticks. -/
def payloads (monitor : Monitor P V C) (settings : PollSettings) (events : List (Event C)) :
    List (Nat × P) :=
  (contributions monitor settings events).filterMap Contribution.payload?

theorem contributionsFrom_concat (loop : PollLoop V) (events : List (Event C)) (event : Event C) :
    contributionsFrom monitor settings loop (events ++ [event]) =
      contributionsFrom monitor settings loop events ++
        (contribution? monitor (run monitor settings loop events) event).toList := by
  induction events generalizing loop with
  | nil => simp [contributionsFrom, run]
  | cons first later ih =>
      rw [List.cons_append, contributionsFrom, contributionsFrom, ih, List.append_assoc]
      rfl

theorem contributions_concat (events : List (Event C)) (event : Event C) :
    contributions monitor settings (events ++ [event]) =
      contributions monitor settings events ++
        (contribution? monitor (reached monitor settings events) event).toList :=
  contributionsFrom_concat _ events event

/-- A step changes the view by its contribution alone. -/
theorem view_step (loop : PollLoop V) (event : Event C) :
    (step monitor settings loop event).loop.feed.view =
      (contribution? monitor loop event).elim loop.feed.view (monitor.absorb loop.feed.view) := by
  have hacts := acts_step monitor settings loop event
  generalize step monitor settings loop event = effect at hacts ⊢
  cases hacts with
  | tick => rfl
  | superseded overtaken log => simp [contribution?, overtaken]
  | payload current read => simp [contribution?, current, read, Monitor.absorb, onPayload]
  | failure current read => simp [contribution?, current, read, onFailure]
  | @discarded batch endpoint result other log =>
      cases result with
      | ok response => simp [contribution?, other]
      | error error => rfl
  | filed filed => simp [contribution?, Monitor.absorb, filed]
  | @unfiled endpoint result error failed log =>
      cases result with
      | ok response =>
          have happly : monitor.applyFollowUp loop.feed.view endpoint response = .error error :=
            failed
          simp [contribution?, Monitor.absorb, happly]
      | error error => rfl
  | command command => rfl

/-- The view is the fold of the contributions over the view at the start. -/
theorem view_reached (events : List (Event C)) :
    (reached monitor settings events).feed.view =
      (contributions monitor settings events).foldl monitor.absorb monitor.initial := by
  induction events using List.reverseRecOn with
  | nil => rfl
  | append_singleton events event ih =>
      rw [reached_concat, contributions_concat, List.foldl_append, ← ih]
      unfold effectAfter
      rw [view_step]
      cases contribution? monitor (reached monitor settings events) event <;> rfl

/-! ## Which payloads are taken -/

variable (monitor settings) in
/-- An event takes no payload and leaves the accepted tick as it was, a response that decodes
being overtaken then, or it takes the payload of its tick, which is the accepted one from then
on. -/
theorem takes_or_not (loop : PollLoop V) (event : Event C) :
    (((contribution? monitor loop event).bind Contribution.payload? = none ∧
        (step monitor settings loop event).loop.sequencer.accepted = loop.sequencer.accepted ∧
        (step monitor settings loop event).loop.feed.health.acceptedTick =
          loop.feed.health.acceptedTick) ∧
      ∀ tick result payload, event = .primary tick result → monitor.read result = .ok payload →
        loop.sequencer.isSuperseded tick = true) ∨
    ∃ tick result payload, event = .primary tick result ∧ monitor.read result = .ok payload ∧
      loop.sequencer.isSuperseded tick = false ∧
      (contribution? monitor loop event).bind Contribution.payload? = some (tick, payload) ∧
      (step monitor settings loop event).loop.sequencer.accepted = some tick ∧
      (step monitor settings loop event).loop.feed.health.acceptedTick = some tick := by
  have hacts := acts_step monitor settings loop event
  generalize step monitor settings loop event = effect at hacts ⊢
  cases hacts with
  | @payload tick result payload current read =>
      refine Or.inr ⟨tick, result, payload, rfl, read, current, ?_, ?_, rfl⟩
      · simp [contribution?, current, read, Contribution.payload?]
      · show (TickSequencer.accept _ _).1.accepted = _
        rw [TickSequencer.accept_eq current]
  | superseded overtaken log =>
      refine Or.inl ⟨⟨by simp [contribution?, overtaken], rfl, rfl⟩, ?_⟩
      intro tick result payload heq _
      cases heq
      exact overtaken
  | failure current read =>
      refine Or.inl ⟨⟨by simp [contribution?, current, read], rfl, rfl⟩, ?_⟩
      intro tick result payload heq hread
      cases heq
      rw [read] at hread
      exact nomatch hread
  | tick => exact Or.inl ⟨⟨rfl, rfl, rfl⟩, fun _ _ _ heq => nomatch heq⟩
  | @discarded batch endpoint result other log =>
      refine Or.inl ⟨⟨?_, rfl, rfl⟩, fun _ _ _ heq => nomatch heq⟩
      cases result <;> simp [contribution?, other]
  | filed filed =>
      exact Or.inl ⟨⟨by simp [contribution?, Contribution.payload?], rfl, rfl⟩,
        fun _ _ _ heq => nomatch heq⟩
  | @unfiled endpoint result error failed log =>
      refine Or.inl ⟨⟨?_, rfl, rfl⟩, fun _ _ _ heq => nomatch heq⟩
      cases result <;> simp [contribution?, Contribution.payload?]
  | command command => exact Or.inl ⟨⟨rfl, rfl, rfl⟩, fun _ _ _ heq => nomatch heq⟩

theorem payloads_concat (events : List (Event C)) (event : Event C) :
    payloads monitor settings (events ++ [event]) =
      payloads monitor settings events ++
        ((contribution? monitor (reached monitor settings events) event).bind
          Contribution.payload?).toList := by
  unfold payloads
  rw [contributions_concat, List.filterMap_append]
  congr 1
  cases contribution? monitor (reached monitor settings events) event with
  | none => rfl
  | some contribution => cases h : contribution.payload? <;> simp [h]

/-- The accepted tick is that of the payload folded in last, in the sequencer as in the feed. -/
theorem accepted_eq_last (events : List (Event C)) :
    (reached monitor settings events).sequencer.accepted =
        (payloads monitor settings events).getLast?.map Prod.fst ∧
      (reached monitor settings events).feed.health.acceptedTick =
        (payloads monitor settings events).getLast?.map Prod.fst := by
  induction events using List.reverseRecOn with
  | nil => exact ⟨rfl, rfl⟩
  | append_singleton events event ih =>
      rw [payloads_concat, reached_concat]
      unfold effectAfter
      rcases takes_or_not monitor settings (reached monitor settings events) event with
        ⟨⟨hnone, hsequencer, hhealth⟩, _⟩ | ⟨tick, _, payload, _, _, _, hsome, hsequencer, hhealth⟩
      · rw [hnone, hsequencer, hhealth]
        simpa using ih
      · rw [hsome, hsequencer, hhealth]
        simp

/-- Each payload folded in is that of a completion. -/
theorem mem_payloads {events : List (Event C)} {tick : Nat} {payload : P}
    (h : (tick, payload) ∈ payloads monitor settings events) :
    ∃ result, Event.primary tick result ∈ events ∧ monitor.read result = .ok payload := by
  induction events using List.reverseRecOn with
  | nil => exact nomatch h
  | append_singleton events event ih =>
      rw [payloads_concat, List.mem_append] at h
      rcases h with hold | hnew
      · obtain ⟨result, hmem, hread⟩ := ih hold
        exact ⟨result, List.mem_append_left _ hmem, hread⟩
      · rcases takes_or_not monitor settings (reached monitor settings events) event with
          ⟨⟨hnone, _⟩, _⟩ | ⟨_, result, _, hevent, hread, _, hsome, _⟩
        · rw [hnone] at hnew
          exact nomatch hnew
        · rw [hsome] at hnew
          simp only [Option.toList_some, List.mem_singleton, Prod.mk.injEq] at hnew
          obtain ⟨rfl, rfl⟩ := hnew
          exact ⟨result, by simp [hevent], hread⟩

end PollLoop

end NfsWatch
