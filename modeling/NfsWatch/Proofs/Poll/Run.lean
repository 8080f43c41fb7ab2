import Mathlib.Data.List.Induction
import Mathlib.Data.List.Pairwise
import NfsWatch.Poll.Loop

/-!
# Runs of a poll loop

A run lists the events of a loop, oldest first. Ticks and operator input come as they like; a
completion comes only to a request that is on its way, and takes it off. The requests on their way
at the end are part of the judgement `Run`, so that a later event can be checked against them.

The first section says once what each event does to a loop; no later proof opens `step`.
`Run.completedTicks_nodup` then says that the request of a tick completes at most once.
-/

namespace NfsWatch

/-- What the completion of the request of a tick stands for: a payload, or why there is none. -/
def Monitor.read {P V C : Type} (monitor : Monitor P V C) (result : Fetched Json) : Fetched P :=
  result.bind (monitor.endpoint.decodeAs monitor.decode)

/-- The tick whose request an event completes. -/
def Event.completedTick? {C : Type} : Event C → Option Nat
  | .primary number _ => some number
  | _ => none

/-- The tick that a request belongs to, unless it is a follow-up. -/
def Request.tick? : Request → Option Nat
  | .primary tick _ => some tick
  | .followUp _ _ => none

theorem Request.completed_ne_tick {C : Type} (request : Request) (result : Fetched Json) :
    (request.completed result : Event C) ≠ .tick := by
  cases request <;> simp [completed]

namespace TickSequencer

theorem accept_eq {sequencer : TickSequencer} {tick : Nat}
    (h : sequencer.isSuperseded tick = false) :
    (sequencer.accept tick).1 = { sequencer with accepted := some tick } := by
  simp [accept, h]

/-- In ordered mode exactly the ticks up to the accepted one are superseded. -/
theorem isSuperseded_ordered {sequencer : TickSequencer} (hmode : sequencer.mode = .ordered)
    (tick : Nat) :
    sequencer.isSuperseded tick = true ↔ ∃ accepted, sequencer.accepted = some accepted ∧
      tick ≤ accepted := by
  unfold isSuperseded
  rw [hmode]
  cases sequencer.accepted with
  | none => simp
  | some accepted => simp

end TickSequencer

namespace PollLoop

variable {P V C : Type} {monitor : Monitor P V C} {settings : PollSettings}

/-! ## What each event does -/

theorem step_superseded {loop : PollLoop V} {tick : Nat} (result : Fetched Json)
    (h : loop.sequencer.isSuperseded tick = true) :
    step monitor settings loop (Event.primary tick result : Event C) =
      ⟨loop, false, [], [.superseded monitor.name tick (loop.sequencer.accepted.getD 0)]⟩ := by
  simp [step, onPrimary, h]

theorem step_payload {loop : PollLoop V} {tick : Nat} {result : Fetched Json} {payload : P}
    (h : loop.sequencer.isSuperseded tick = false) (hread : monitor.read result = .ok payload) :
    step monitor settings loop (Event.primary tick result : Event C) =
      onPayload monitor loop tick payload := by
  have hbind : result.bind (monitor.endpoint.decodeAs monitor.decode) = .ok payload := hread
  simp [step, onPrimary, h, hbind]

theorem step_failure {loop : PollLoop V} {tick : Nat} {result : Fetched Json} {error : FetchError}
    (h : loop.sequencer.isSuperseded tick = false) (hread : monitor.read result = .error error) :
    step monitor settings loop (Event.primary tick result : Event C) =
      onFailure monitor settings loop error := by
  have hbind : result.bind (monitor.endpoint.decodeAs monitor.decode) = .error error := hread
  simp [step, onPrimary, h, hbind]

theorem step_discarded {loop : PollLoop V} {batch : Nat} (endpoint : Endpoint)
    (result : Fetched Json) (h : batch ≠ loop.batch) :
    step monitor settings loop (Event.followUp batch endpoint result : Event C) =
      ⟨loop, false, [], [.followUpDiscarded monitor.name endpoint]⟩ := by
  simp [step, onFollowUp, h]

theorem step_filed {loop : PollLoop V} {endpoint : Endpoint} {result : Fetched Json} {view : V}
    {changed : Bool}
    (h : result.bind (monitor.applyFollowUp loop.feed.view endpoint) = .ok (view, changed)) :
    step monitor settings loop (Event.followUp loop.batch endpoint result : Event C) =
      ⟨{ loop with feed := { loop.feed with view } }, changed, [], []⟩ := by
  simp [step, onFollowUp, h]

theorem step_unfiled {loop : PollLoop V} {endpoint : Endpoint} {result : Fetched Json}
    {error : FetchError}
    (h : result.bind (monitor.applyFollowUp loop.feed.view endpoint) = .error error) :
    step monitor settings loop (Event.followUp loop.batch endpoint result : Event C) =
      ⟨loop, false, [], [.followUpFailed monitor.name error]⟩ := by
  simp [step, onFollowUp, h]

/-- Everything that a step can do, with the condition under which it does it. -/
inductive Acts (monitor : Monitor P V C) (settings : PollSettings) (loop : PollLoop V) :
    Event C → Effect V → Prop
  | tick : Acts monitor settings loop .tick (onTick monitor loop)
  /-- An overtaken response is dropped, whatever it holds. -/
  | superseded {tick : Nat} {result : Fetched Json}
      (overtaken : loop.sequencer.isSuperseded tick = true) (log : List LogEntry) :
      Acts monitor settings loop (.primary tick result) ⟨loop, false, [], log⟩
  | payload {tick : Nat} {result : Fetched Json} {payload : P}
      (current : loop.sequencer.isSuperseded tick = false)
      (read : monitor.read result = .ok payload) :
      Acts monitor settings loop (.primary tick result) (onPayload monitor loop tick payload)
  | failure {tick : Nat} {result : Fetched Json} {error : FetchError}
      (current : loop.sequencer.isSuperseded tick = false)
      (read : monitor.read result = .error error) :
      Acts monitor settings loop (.primary tick result) (onFailure monitor settings loop error)
  /-- A completion of another batch is dropped. -/
  | discarded {batch : Nat} {endpoint : Endpoint} {result : Fetched Json}
      (other : batch ≠ loop.batch) (log : List LogEntry) :
      Acts monitor settings loop (.followUp batch endpoint result) ⟨loop, false, [], log⟩
  /-- A response of the current batch is filed. -/
  | filed {endpoint : Endpoint} {response : Json} {view : V} {changed : Bool}
      (filed : monitor.applyFollowUp loop.feed.view endpoint response = .ok (view, changed)) :
      Acts monitor settings loop (.followUp loop.batch endpoint (.ok response))
        ⟨{ loop with feed := { loop.feed with view } }, changed, [], []⟩
  /-- A completion of the current batch fails. -/
  | unfiled {endpoint : Endpoint} {result : Fetched Json} {error : FetchError}
      (failed : result.bind (monitor.applyFollowUp loop.feed.view endpoint) = .error error)
      (log : List LogEntry) :
      Acts monitor settings loop (.followUp loop.batch endpoint result) ⟨loop, false, [], log⟩
  | command (command : C) :
      Acts monitor settings loop (.command command) (onCommand monitor loop command)

variable (monitor settings) in
theorem acts_step (loop : PollLoop V) (event : Event C) :
    Acts monitor settings loop event (step monitor settings loop event) := by
  cases event with
  | tick => exact .tick
  | primary tick result =>
      cases hcurrent : loop.sequencer.isSuperseded tick with
      | true =>
          rw [step_superseded result hcurrent]
          exact .superseded hcurrent _
      | false =>
          cases hread : monitor.read result with
          | ok payload =>
              rw [step_payload hcurrent hread]
              exact .payload hcurrent hread
          | error error =>
              rw [step_failure hcurrent hread]
              exact .failure hcurrent hread
  | followUp batch endpoint result =>
      by_cases hbatch : batch = loop.batch
      · subst hbatch
        cases hfiled : result.bind (monitor.applyFollowUp loop.feed.view endpoint) with
        | ok filed =>
            obtain ⟨view, changed⟩ := filed
            rw [step_filed hfiled]
            cases result with
            | ok response => exact .filed hfiled
            | error error => exact nomatch hfiled
        | error error =>
            rw [step_unfiled hfiled]
            exact .unfiled hfiled _
      · rw [step_discarded endpoint result hbatch]
        exact .discarded hbatch _
  | command command => exact .command command

/-! ## Runs -/

/-- The loop that these events lead to, from its start. -/
def reached (monitor : Monitor P V C) (settings : PollSettings) (events : List (Event C)) :
    PollLoop V :=
  run monitor settings (start monitor settings) events

/-- What an event does after those before it. -/
def effectAfter (monitor : Monitor P V C) (settings : PollSettings) (events : List (Event C))
    (event : Event C) : Effect V :=
  step monitor settings (reached monitor settings events) event

theorem reached_concat (events : List (Event C)) (event : Event C) :
    reached monitor settings (events ++ [event]) =
      (effectAfter monitor settings events event).loop := by
  unfold reached run
  rw [List.foldl_append]
  rfl

variable (monitor settings) in
theorem acts_effectAfter (events : List (Event C)) (event : Event C) :
    Acts monitor settings (reached monitor settings events) event
      (effectAfter monitor settings events event) :=
  acts_step _ _ _ _

/-- The mode of a loop is the one that it was set up with. -/
theorem reached_mode (events : List (Event C)) :
    (reached monitor settings events).sequencer.mode = settings.sequencing := by
  induction events using List.reverseRecOn with
  | nil => rfl
  | append_singleton events event ih =>
      rw [reached_concat]
      have hacts := acts_effectAfter monitor settings events event
      generalize effectAfter monitor settings events event = effect at hacts ⊢
      cases hacts with
      | payload current _ =>
          show (TickSequencer.accept _ _).1.mode = _
          rw [TickSequencer.accept_eq current]
          exact ih
      | _ => exact ih

/-- The ticks whose requests were completed, oldest first. -/
def completedTicks (events : List (Event C)) : List Nat := events.filterMap Event.completedTick?

/-- The events so far, and the requests that they leave on their way. -/
inductive Run (monitor : Monitor P V C) (settings : PollSettings) :
    List (Event C) → List Request → Prop
  | start : Run monitor settings [] []
  | tick {events : List (Event C)} {inFlight : List Request} :
      Run monitor settings events inFlight →
      Run monitor settings (events ++ [.tick])
        (inFlight ++ (effectAfter monitor settings events .tick).requests)
  | command {events : List (Event C)} {inFlight : List Request} (command : C) :
      Run monitor settings events inFlight →
      Run monitor settings (events ++ [.command command])
        (inFlight ++ (effectAfter monitor settings events (.command command)).requests)
  /-- A request that is on its way completes, whichever it is. -/
  | completed {events : List (Event C)} {earlier later : List Request} {request : Request}
      (result : Fetched Json) :
      Run monitor settings events (earlier ++ request :: later) →
      Run monitor settings (events ++ [request.completed result])
        (earlier ++ later ++
          (effectAfter monitor settings events (request.completed result)).requests)

/-- The responses to the first two ticks can come in either order. -/
theorem Run.either_order (monitor : Monitor P V C) (settings : PollSettings)
    (first second : Fetched Json) :
    (∃ inFlight, Run monitor settings
      [.tick, .tick, .primary 1 first, .primary 2 second] inFlight) ∧
    ∃ inFlight, Run monitor settings
      [.tick, .tick, .primary 2 second, .primary 1 first] inFlight := by
  have hticks : Run monitor settings [.tick, .tick]
      [.primary 1 monitor.endpoint, .primary 2 monitor.endpoint] := Run.start.tick.tick
  refine ⟨?_, ?_⟩
  · have hfirst := @Run.completed _ _ _ _ _ _ [] _ (.primary 1 monitor.endpoint) first hticks
    exact ⟨_, @Run.completed _ _ _ _ _ _ [] _ (.primary 2 monitor.endpoint) second hfirst⟩
  · have hsecond := @Run.completed _ _ _ _ _ _ [.primary 1 monitor.endpoint] _
      (.primary 2 monitor.endpoint) second hticks
    exact ⟨_, @Run.completed _ _ _ _ _ _ [] _ (.primary 1 monitor.endpoint) first hsecond⟩

/-! ## Each tick completes at most once -/

variable (monitor settings) in
/-- Nothing but a tick hands out a number or issues the request of a tick. -/
theorem issued_of_ne_tick (loop : PollLoop V) {event : Event C} (h : event ≠ .tick) :
    (step monitor settings loop event).loop.sequencer.issued = loop.sequencer.issued ∧
      ∀ request ∈ (step monitor settings loop event).requests, request.tick? = none := by
  have hacts := acts_step monitor settings loop event
  generalize step monitor settings loop event = effect at hacts ⊢
  cases hacts with
  | tick => exact absurd rfl h
  | @payload tick result payload current read =>
      refine ⟨?_, ?_⟩
      · show (TickSequencer.accept _ _).1.issued = _
        rw [TickSequencer.accept_eq current]
      · intro request hmem
        obtain ⟨endpoint, _, rfl⟩ := List.mem_map.mp hmem
        rfl
  | superseded overtaken log => exact ⟨rfl, by simp⟩
  | failure current read => exact ⟨rfl, by simp [onFailure]⟩
  | discarded other log => exact ⟨rfl, by simp⟩
  | filed filed => exact ⟨rfl, by simp⟩
  | unfiled failed log => exact ⟨rfl, by simp⟩
  | command command => exact ⟨rfl, by simp [onCommand]⟩

variable (monitor settings) in
/-- Only a tick issues the request of a tick, and that under a number not used before. -/
theorem requests_ticks (loop : PollLoop V) (event : Event C) :
    ((step monitor settings loop event).requests.filterMap Request.tick? = [] ∧
      (step monitor settings loop event).loop.sequencer.issued = loop.sequencer.issued) ∨
    ((step monitor settings loop event).requests.filterMap Request.tick? =
        [loop.sequencer.issued + 1] ∧
      (step monitor settings loop event).loop.sequencer.issued = loop.sequencer.issued + 1 ∧
      event.completedTick? = none) := by
  by_cases htick : event = .tick
  · subst htick
    exact Or.inr ⟨rfl, rfl, rfl⟩
  · obtain ⟨hcount, hnone⟩ := issued_of_ne_tick monitor settings loop htick
    exact Or.inl ⟨List.filterMap_eq_nil_iff.mpr hnone, hcount⟩

/-- The ticks completed and those on their way. -/
def knownTicks (events : List (Event C)) (inFlight : List Request) : List Nat :=
  completedTicks events ++ inFlight.filterMap Request.tick?

/-- The bookkeeping behind it: no tick is both completed and on its way, or either twice, and all
were handed out. -/
structure TicksDistinct (monitor : Monitor P V C) (settings : PollSettings)
    (events : List (Event C)) (inFlight : List Request) : Prop where
  nodup : (knownTicks events inFlight).Nodup
  issued : ∀ tick ∈ knownTicks events inFlight,
    tick ≤ (reached monitor settings events).sequencer.issued

/-- The requests that an event issues keep the books in order once the request that it completes
is moved over. -/
theorem TicksDistinct.concat {events : List (Event C)} {inFlight remaining : List Request}
    (event : Event C) (h : TicksDistinct monitor settings events inFlight)
    (hmoved : (knownTicks (events ++ [event]) remaining).Perm (knownTicks events inFlight)) :
    TicksDistinct monitor settings (events ++ [event])
      (remaining ++ (effectAfter monitor settings events event).requests) := by
  have hnodup := hmoved.nodup_iff.mpr h.nodup
  have hissued : ∀ tick ∈ knownTicks (events ++ [event]) remaining,
      tick ≤ (reached monitor settings events).sequencer.issued := by
    intro tick hmem
    exact h.issued tick (hmoved.mem_iff.mp hmem)
  have hknown : knownTicks (events ++ [event])
      (remaining ++ (effectAfter monitor settings events event).requests) =
      knownTicks (events ++ [event]) remaining ++
        (effectAfter monitor settings events event).requests.filterMap Request.tick? := by
    simp [knownTicks, List.append_assoc]
  -- an event issues the request of one tick at most, and then of the one after all known ones
  rcases requests_ticks monitor settings (reached monitor settings events) event with
    ⟨hnew, hcount⟩ | ⟨hnew, hcount, _⟩
  · change (effectAfter monitor settings events event).requests.filterMap _ = [] at hnew
    rw [hnew, List.append_nil] at hknown
    refine ⟨by rwa [hknown], ?_⟩
    rw [hknown, reached_concat]
    intro tick hmem
    exact Nat.le_trans (hissued tick hmem) (Nat.le_of_eq hcount.symm)
  · change (effectAfter monitor settings events event).requests.filterMap _ = _ at hnew
    rw [hnew] at hknown
    refine ⟨?_, ?_⟩
    · rw [hknown]
      refine List.nodup_append.mpr ⟨hnodup, by simp, ?_⟩
      intro tick hmem other hother
      have hle := hissued tick hmem
      rw [List.mem_singleton] at hother
      omega
    · rw [hknown, reached_concat]
      intro tick hmem
      have hgrown : (effectAfter monitor settings events event).loop.sequencer.issued =
        (reached monitor settings events).sequencer.issued + 1 := hcount
      rcases List.mem_append.mp hmem with hold | hfresh
      · have hle := hissued tick hold
        omega
      · rw [List.mem_singleton] at hfresh
        omega

theorem Run.ticksDistinct {events : List (Event C)} {inFlight : List Request}
    (h : Run monitor settings events inFlight) :
    TicksDistinct monitor settings events inFlight := by
  induction h with
  | start => exact ⟨List.nodup_nil, fun tick hmem => nomatch hmem⟩
  | tick _ ih =>
      refine ih.concat .tick (List.Perm.of_eq ?_)
      simp [knownTicks, completedTicks, Event.completedTick?]
  | command command _ ih =>
      refine ih.concat (.command command) (List.Perm.of_eq ?_)
      simp [knownTicks, completedTicks, Event.completedTick?]
  | @completed events earlier later request result _ ih =>
      refine ih.concat (request.completed result) ?_
      have htick : (request.completed result : Event C).completedTick? = request.tick? := by
        cases request <;> rfl
      cases hrequest : request.tick? with
      | none => simp [knownTicks, completedTicks, htick, hrequest]
      | some tick =>
          simp only [knownTicks, completedTicks, List.filterMap_append, List.filterMap_cons, htick,
            hrequest, List.filterMap_nil, List.append_assoc]
          refine List.Perm.append_left _ ?_
          rw [List.singleton_append]
          exact List.perm_middle.symm

/-- The request of a tick completes at most once. -/
theorem Run.completedTicks_nodup {events : List (Event C)} {inFlight : List Request}
    (h : Run monitor settings events inFlight) : (completedTicks events).Nodup :=
  (List.nodup_append.mp h.ticksDistinct.nodup).1

/-- So a run knows one result for each tick. -/
theorem Run.result_unique {events : List (Event C)} {inFlight : List Request}
    (h : Run monitor settings events inFlight) {tick : Nat} {first second : Fetched Json}
    (hfirst : Event.primary tick first ∈ events) (hsecond : Event.primary tick second ∈ events) :
    first = second := by
  -- two different completions of a tick would have it twice among the ticks completed
  by_contra hne
  have hpairwise := List.pairwise_filterMap.mp h.completedTicks_nodup
  have hsymm : Std.Symm fun a b : Event C => ∀ i, a.completedTick? = some i →
      ∀ j, b.completedTick? = some j → i ≠ j :=
    ⟨fun a b hab i hi j hj => (hab j hj i hi).symm⟩
  have hdistinct : (Event.primary tick first : Event C) ≠ .primary tick second := by
    intro heq
    exact hne (Event.primary.inj heq).2
  exact hpairwise.forall hfirst hsecond hdistinct tick rfl tick rfl rfl

end PollLoop

end NfsWatch
