import NfsWatch.Monitor.ClientList
import NfsWatch.Proofs.Poll.Run

/-!
# Freshness is a function of the completions

A response of a tick counts unless it is overtaken when it comes in. The history of the responses
that count is built from the events alone, without a loop: what it holds decides the accepted tick,
and the accepted tick decides what counts next. `freshness_follows_history` says that the freshness
of a feed is read off that history, in either sequencing mode and for any threshold.
-/

namespace NfsWatch

/-! ## Histories of responses that count -/

/-- The response of a tick: a payload, or why there is none. -/
structure TickResponse (P : Type) where
  tick : Nat
  outcome : Fetched P

namespace TickHistory

variable {P : Type}

/-- The tick of the latest success. Histories have the latest response first. -/
def accepted : List (TickResponse P) → Option Nat
  | [] => none
  | ⟨tick, .ok _⟩ :: _ => some tick
  | ⟨_, .error _⟩ :: older => accepted older

/-- The failures since the latest success, the latest first. -/
def failuresSince : List (TickResponse P) → List FetchError
  | [] => []
  | ⟨_, .ok _⟩ :: _ => []
  | ⟨_, .error error⟩ :: older => error :: failuresSince older

/-- The latest failure of all. -/
def latestFailure : List (TickResponse P) → Option FetchError
  | [] => none
  | ⟨_, .ok _⟩ :: older => latestFailure older
  | ⟨_, .error error⟩ :: _ => some error

end TickHistory

/-- Whether the response of a tick counts: always in unordered mode, and in ordered mode if nothing
was accepted yet or the tick is greater than the accepted one. -/
def Sequencing.counts (mode : Sequencing) (accepted : Option Nat) (tick : Nat) : Bool :=
  match mode, accepted with
  | .ordered, some newest => newest < tick
  | _, _ => true

/-- What counts is what a sequencer does not take for superseded. -/
theorem TickSequencer.isSuperseded_eq (sequencer : TickSequencer) (tick : Nat) :
    sequencer.isSuperseded tick = !sequencer.mode.counts sequencer.accepted tick := by
  obtain ⟨mode, issued, accepted⟩ := sequencer
  cases mode with
  | unordered => rfl
  | ordered =>
      cases accepted with
      | none => rfl
      | some newest =>
          have hnot : decide (tick ≤ newest) = !decide (newest < tick) := by
            rw [← decide_not]
            exact decide_eq_decide.mpr Nat.not_lt.symm
          exact hnot

namespace PollLoop

variable {P V C : Type} {monitor : Monitor P V C} {settings : PollSettings}

/-- The history after one more event. -/
def recordTick (monitor : Monitor P V C) (mode : Sequencing) (history : List (TickResponse P)) :
    Event C → List (TickResponse P)
  | .primary tick result =>
      if mode.counts (TickHistory.accepted history) tick then
        ⟨tick, monitor.read result⟩ :: history
      else history
  | _ => history

/-- The responses that count among these events, the latest first. -/
def tickHistory (monitor : Monitor P V C) (mode : Sequencing) (events : List (Event C)) :
    List (TickResponse P) :=
  events.foldl (recordTick monitor mode) []

theorem tickHistory_concat (mode : Sequencing) (events : List (Event C)) (event : Event C) :
    tickHistory monitor mode (events ++ [event]) =
      recordTick monitor mode (tickHistory monitor mode events) event := by
  unfold tickHistory
  rw [List.foldl_append]
  rfl

/-! ## The freshness that a history stands for -/

/-- The health of a feed, and the accepted tick of its sequencer, are read off a history. -/
structure ReadsHistory (staleAfter : Nat) (history : List (TickResponse P))
    (loop : PollLoop V) : Prop where
  failures : loop.feed.health.failures =
    min FeedHealth.mostFailures (TickHistory.failuresSince history).length
  stale : loop.feed.health.stale = true ↔
    0 < staleAfter ∧ staleAfter ≤ loop.feed.health.failures
  lastError : loop.feed.health.lastError =
    if 0 < loop.feed.health.failures then
      (TickHistory.latestFailure history).map FetchError.message
    else none
  acceptedTick : loop.feed.health.acceptedTick = TickHistory.accepted history
  sequencer : loop.sequencer.accepted = loop.feed.health.acceptedTick
  succeeded : loop.feed.health.succeeded = loop.feed.health.acceptedTick.isSome

/-- Without failures no threshold is reached. -/
theorem not_stale_iff (staleAfter : Nat) : false = true ↔ 0 < staleAfter ∧ staleAfter ≤ 0 := by
  constructor
  · intro hstale
    exact nomatch hstale
  · rintro ⟨hpositive, hle⟩
    exact absurd hle (Nat.not_le.mpr hpositive)

/-- What leaves health and sequencer alone leaves them to the same history. -/
theorem ReadsHistory.kept {staleAfter : Nat} {history : List (TickResponse P)}
    {loop after : PollLoop V} (h : ReadsHistory staleAfter history loop)
    (hhealth : after.feed.health = loop.feed.health)
    (hsequencer : after.sequencer.accepted = loop.sequencer.accepted) :
    ReadsHistory staleAfter history after := by
  constructor
  · rw [hhealth]
    exact h.failures
  · rw [hhealth]
    exact h.stale
  · rw [hhealth]
    exact h.lastError
  · rw [hhealth]
    exact h.acceptedTick
  · rw [hhealth, hsequencer]
    exact h.sequencer
  · rw [hhealth]
    exact h.succeeded

theorem ReadsHistory.payload {staleAfter : Nat} {history : List (TickResponse P)}
    {loop : PollLoop V} {tick : Nat} (payload : P)
    (hcurrent : loop.sequencer.isSuperseded tick = false) :
    ReadsHistory staleAfter (⟨tick, .ok payload⟩ :: history)
      (onPayload monitor loop tick payload).loop where
  failures := rfl
  stale := not_stale_iff staleAfter
  lastError := rfl
  acceptedTick := rfl
  sequencer := by
    show (loop.sequencer.accept tick).1.accepted = some tick
    rw [TickSequencer.accept_eq hcurrent]
  succeeded := rfl

theorem ReadsHistory.failure {history : List (TickResponse P)} {loop : PollLoop V}
    (h : ReadsHistory settings.staleAfter history loop) (tick : Nat) (error : FetchError) :
    ReadsHistory settings.staleAfter (⟨tick, .error error⟩ :: history)
      (onFailure monitor settings loop error).loop := by
  have hcount : (onFailure monitor settings loop error).loop.feed.health.failures =
      min FeedHealth.mostFailures (loop.feed.health.failures + 1) := rfl
  constructor
  · -- the count was cut off at the same number before
    have hlength : (TickHistory.failuresSince (⟨tick, .error error⟩ :: history)).length =
        (TickHistory.failuresSince history).length + 1 := rfl
    have hmost : 1 ≤ FeedHealth.mostFailures := by decide
    rw [hcount, h.failures, hlength]
    omega
  · exact decide_eq_true_iff
  · have hpositive : 0 < min FeedHealth.mostFailures (loop.feed.health.failures + 1) :=
      Nat.lt_min.mpr ⟨by decide, Nat.succ_pos _⟩
    rw [hcount, if_pos hpositive]
    rfl
  · exact h.acceptedTick
  · exact h.sequencer
  · exact h.succeeded

theorem readsHistory_reached (events : List (Event C)) :
    ReadsHistory settings.staleAfter (tickHistory monitor settings.sequencing events)
      (reached monitor settings events) := by
  induction events using List.reverseRecOn with
  | nil => exact ⟨rfl, not_stale_iff settings.staleAfter, rfl, rfl, rfl, rfl⟩
  | append_singleton events event ih =>
      rw [tickHistory_concat, reached_concat]
      -- the history tells as the sequencer does which responses count
      have hcounts : ∀ tick, (reached monitor settings events).sequencer.isSuperseded tick =
          !settings.sequencing.counts (TickHistory.accepted
            (tickHistory monitor settings.sequencing events)) tick := by
        intro tick
        rw [TickSequencer.isSuperseded_eq, reached_mode, ih.sequencer, ih.acceptedTick]
      have hacts := acts_effectAfter monitor settings events event
      generalize effectAfter monitor settings events event = effect at hacts ⊢
      cases hacts with
      | @superseded tick result overtaken log =>
          rw [hcounts, Bool.not_eq_true'] at overtaken
          simp only [recordTick, overtaken, Bool.false_eq_true, if_false]
          exact ih
      | @payload tick result payload current read =>
          have hcurrent := current
          rw [hcounts, Bool.not_eq_false'] at current
          simp only [recordTick, current, if_true, read]
          exact .payload payload hcurrent
      | @failure tick result error current read =>
          rw [hcounts, Bool.not_eq_false'] at current
          simp only [recordTick, current, if_true, read]
          exact ih.failure tick error
      | tick => exact ih.kept rfl rfl
      | discarded other log => exact ih
      | filed filed => exact ih.kept rfl rfl
      | unfiled failed log => exact ih
      | command command => exact ih.kept rfl rfl

/-! ## Completions one by one -/

/-- A failure is announced exactly when the feed becomes stale or is stale no more. -/
theorem notified_failure (loop : PollLoop V) {tick : Nat} {result : Fetched Json}
    {error : FetchError} (hread : monitor.read result = .error error) :
    (step monitor settings loop (.primary tick result)).notified = true ↔
      (step monitor settings loop (.primary tick result)).loop.feed.health.stale ≠
        loop.feed.health.stale := by
  cases hcurrent : loop.sequencer.isSuperseded tick with
  | true =>
      rw [step_superseded result hcurrent]
      simp
  | false =>
      rw [step_failure hcurrent hread]
      exact bne_iff_ne

/-- After any events, the failures in a row, the stale flag, the last error and the accepted tick
are those of the responses that count, and the feed knows a success exactly if a tick is accepted.
A response that does not count changes nothing and is not announced, and a failure is announced
exactly when it makes the stale flag flip. -/
theorem freshness_follows_history (monitor : Monitor P V C) (settings : PollSettings)
    (events : List (Event C)) :
    ReadsHistory settings.staleAfter (tickHistory monitor settings.sequencing events)
        (reached monitor settings events) ∧
      ∀ tick result,
        (settings.sequencing.counts (reached monitor settings events).feed.health.acceptedTick
            tick = false →
          (effectAfter monitor settings events (.primary tick result)).loop =
              reached monitor settings events ∧
            (effectAfter monitor settings events (.primary tick result)).notified = false) ∧
        ∀ error, monitor.read result = .error error →
          ((effectAfter monitor settings events (.primary tick result)).notified = true ↔
            (effectAfter monitor settings events (.primary tick result)).loop.feed.health.stale ≠
              (reached monitor settings events).feed.health.stale) := by
  have hreads := @readsHistory_reached _ _ _ monitor settings events
  refine ⟨hreads, ?_⟩
  intro tick result
  refine ⟨?_, ?_⟩
  · intro hcounts
    have hovertaken : (reached monitor settings events).sequencer.isSuperseded tick = true := by
      rw [TickSequencer.isSuperseded_eq, reached_mode, hreads.sequencer, hcounts]
      rfl
    unfold effectAfter
    rw [step_superseded result hovertaken]
    exact ⟨rfl, rfl⟩
  · intro error hread
    exact notified_failure _ hread

/-- The second response comes first, so the first one does not count; then three in a row fail, one
of them because it is no list of ids. -/
def threeFailures : List (Event ClientList.Command) :=
  [.tick, .tick, .tick, .tick, .tick, .tick,
    .primary 2 (.ok (.strings ["a"])),
    .primary 1 (.error (.transport .clients "late")),
    .primary 3 (.error (.transport .clients "refused")),
    .primary 4 (.ok .null),
    .primary 5 (.error (.transport .clients "refused"))]

/-- The third failure in a row makes the feed stale. A response that is overtaken does not refresh
it, and one more failure is counted without being announced. -/
theorem three_failures_make_stale :
    (reached ClientList.monitor .standard threeFailures).feed.health =
        ⟨3, true, some 2, true, some "transport failure on /nfs4/client: refused"⟩ ∧
      (PollSettings.standard.sequencing.counts (reached ClientList.monitor .standard
          threeFailures).feed.health.acceptedTick 1 = false ∧
        (effectAfter ClientList.monitor .standard threeFailures
          (.primary 1 (.ok (.strings ["b"])))).loop =
            reached ClientList.monitor .standard threeFailures) ∧
      ∃ error, ClientList.monitor.read (.ok .null) = .error error ∧
        (effectAfter ClientList.monitor .standard threeFailures
          (.primary 6 (.ok .null))).notified = false := by
  obtain ⟨hreads, hnext⟩ :=
    freshness_follows_history ClientList.monitor .standard threeFailures
  have hhealth : (reached ClientList.monitor .standard threeFailures).feed.health =
      ⟨3, true, some 2, true, some "transport failure on /nfs4/client: refused"⟩ := by
    decide +kernel
  have hovertaken : PollSettings.standard.sequencing.counts (reached ClientList.monitor .standard
      threeFailures).feed.health.acceptedTick 1 = false := by
    rw [hreads.acceptedTick]
    decide +kernel
  have hunread : ClientList.monitor.read (.ok .null) =
      .error (.decode .clients "invalid type: null, expected a sequence") := rfl
  refine ⟨hhealth, ⟨hovertaken, ((hnext 1 _).1 hovertaken).1⟩, _, hunread, ?_⟩
  -- the feed was stale before and is so afterwards
  rw [← Bool.not_eq_true, (hnext 6 _).2 _ hunread, not_not, hhealth]
  decide +kernel

end PollLoop

end NfsWatch
