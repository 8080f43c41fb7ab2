import NfsWatch.Proofs.Poll.Convergence
import NfsWatch.Proofs.Poll.Freshness

/-!
# The two sequencing modes

The modes differ only in what they do about a response that was overtaken. Where the responses come
in the order of their ticks nothing is overtaken, since the accepted tick is one of those completed
before; then the same events drive both loops through the same feeds (`reached_inOrder`), and with
the same effects (`effect_inOrder`). Failures do not matter for this, nor do ticks that are never
answered.

In unordered mode nothing is overtaken in any case. What is displayed is then all that came in,
taken as it came (`reached_taken`).
-/

namespace NfsWatch

/-- The same settings with another sequencing. -/
def PollSettings.sequenced (settings : PollSettings) (sequencing : Sequencing) : PollSettings :=
  { settings with sequencing }

namespace PollLoop

variable {P V C : Type} {monitor : Monitor P V C} {settings : PollSettings}

/-- The responses to the ticks came in the order of the ticks. -/
def InOrder (events : List (Event C)) : Prop := (completedTicks events).Pairwise (· < ·)

instance (events : List (Event C)) : Decidable (InOrder events) :=
  inferInstanceAs (Decidable ((completedTicks events).Pairwise (· < ·)))

theorem InOrder.of_append {events later : List (Event C)} (h : InOrder (events ++ later)) :
    InOrder events := by
  unfold InOrder completedTicks at h
  rw [List.filterMap_append] at h
  exact (List.pairwise_append.mp h).1

theorem InOrder.next {events before later : List (Event C)} {event : Event C}
    (h : InOrder events) (hsplit : events = before ++ event :: later) :
    InOrder (before ++ [event]) := by
  rw [hsplit, ← List.singleton_append, ← List.append_assoc] at h
  exact h.of_append

/-- The tick that completes next is greater than all completed so far. -/
theorem InOrder.lt {events : List (Event C)} {event : Event C} {older tick : Nat}
    (h : InOrder (events ++ [event])) (htick : event.completedTick? = some tick)
    (holder : older ∈ completedTicks events) : older < tick := by
  unfold InOrder completedTicks at h
  rw [List.filterMap_append] at h
  refine (List.pairwise_append.mp h).2.2 older holder tick ?_
  simp [htick]

/-- The accepted tick was completed, in either mode. -/
theorem accepted_completed {events : List (Event C)} {tick : Nat}
    (h : (reached monitor settings events).sequencer.accepted = some tick) :
    tick ∈ completedTicks events := by
  rw [(accepted_eq_last events).1] at h
  obtain ⟨⟨taken, payload⟩, hlast, rfl⟩ := Option.map_eq_some_iff.mp h
  obtain ⟨result, hmem, _⟩ := mem_payloads (List.mem_of_getLast? hlast)
  exact List.mem_filterMap.mpr ⟨_, hmem, rfl⟩

/-- So nothing is overtaken that completes in order. -/
theorem not_superseded {events : List (Event C)} {event : Event C} {tick : Nat}
    (h : InOrder (events ++ [event])) (htick : event.completedTick? = some tick) :
    (reached monitor settings events).sequencer.isSuperseded tick = false := by
  rw [TickSequencer.isSuperseded_eq, Bool.not_eq_false']
  unfold Sequencing.counts
  split
  · rename_i newest _ haccepted
    exact decide_eq_true (h.lt htick (accepted_completed haccepted))
  · rfl

/-! ## From ordered to unordered -/

/-- The loop in unordered mode. -/
def unordered (loop : PollLoop V) : PollLoop V :=
  { loop with sequencer := { loop.sequencer with mode := .unordered } }

/-- What an event does to a loop in unordered mode is what it does to the loop, in unordered mode,
if it completes nothing that was overtaken. -/
theorem step_unordered {loop : PollLoop V} {event : Event C} (mode : Sequencing)
    (h : ∀ tick, event.completedTick? = some tick → loop.sequencer.isSuperseded tick = false) :
    step monitor (settings.sequenced mode) loop.unordered event =
      { step monitor settings loop event with
        loop := (step monitor settings loop event).loop.unordered } := by
  cases event with
  | tick => rfl
  | command command => rfl
  | primary tick result =>
      have hcurrent := h tick rfl
      have hunordered : loop.unordered.sequencer.isSuperseded tick = false := rfl
      cases hread : monitor.read result with
      | ok payload =>
          rw [step_payload hcurrent hread, step_payload hunordered hread]
          simp only [onPayload, TickSequencer.accept_eq hcurrent,
            TickSequencer.accept_eq hunordered]
          rfl
      | error error =>
          rw [step_failure hcurrent hread, step_failure hunordered hread]
          rfl
  | followUp batch endpoint result =>
      by_cases hbatch : batch = loop.batch
      · subst hbatch
        cases hfiled : result.bind (monitor.applyFollowUp loop.feed.view endpoint) with
        | ok filed =>
            have hsame : result.bind (monitor.applyFollowUp loop.unordered.feed.view endpoint) =
              .ok filed := hfiled
            rw [step_filed hfiled]
            exact step_filed hsame
        | error error =>
            have hsame : result.bind (monitor.applyFollowUp loop.unordered.feed.view endpoint) =
              .error error := hfiled
            rw [step_unfiled hfiled]
            exact step_unfiled hsame
      · rw [step_discarded endpoint result hbatch]
        exact step_discarded endpoint result hbatch

/-- In order, the unordered loop passes through the states of the ordered one. -/
theorem reached_inOrder {events : List (Event C)} (h : InOrder events) :
    reached monitor (settings.sequenced .unordered) events =
      (reached monitor (settings.sequenced .ordered) events).unordered := by
  induction events using List.reverseRecOn with
  | nil => rfl
  | append_singleton events event ih =>
      rw [reached_concat, reached_concat]
      unfold effectAfter
      rw [ih h.of_append]
      exact congrArg Effect.loop
        (@step_unordered _ _ _ monitor (settings.sequenced .ordered) _ event .unordered
          fun tick htick => not_superseded h htick)

/-- And every event does the same to both, but for the mode. -/
theorem effect_inOrder {events : List (Event C)} {event : Event C}
    (h : InOrder (events ++ [event])) :
    effectAfter monitor (settings.sequenced .unordered) events event =
      { effectAfter monitor (settings.sequenced .ordered) events event with
        loop :=
          (effectAfter monitor (settings.sequenced .ordered) events event).loop.unordered } := by
  unfold effectAfter
  rw [reached_inOrder h.of_append]
  exact @step_unordered _ _ _ monitor (settings.sequenced .ordered) _ event .unordered
    fun tick htick => not_superseded h htick

/-- What is on its way depends on the requests issued only. -/
theorem Run.congr {settings' : PollSettings} {events : List (Event C)} {inFlight : List Request}
    (h : Run monitor settings events inFlight)
    (hrequests : ∀ before event later, events = before ++ event :: later →
      (effectAfter monitor settings' before event).requests =
        (effectAfter monitor settings before event).requests) :
    Run monitor settings' events inFlight := by
  have hbefore : ∀ {events : List (Event C)} {last : Event C},
      (∀ before event later, events ++ [last] = before ++ event :: later →
        (effectAfter monitor settings' before event).requests =
          (effectAfter monitor settings before event).requests) →
      ∀ before event later, events = before ++ event :: later →
        (effectAfter monitor settings' before event).requests =
          (effectAfter monitor settings before event).requests := by
    intro events last hall before event later hsplit
    refine hall before event (later ++ [last]) ?_
    rw [hsplit, List.append_assoc]
    rfl
  induction h with
  | start => exact .start
  | tick _ ih =>
      rw [← hrequests _ _ [] rfl]
      exact (ih (hbefore hrequests)).tick
  | command command _ ih =>
      rw [← hrequests _ _ [] rfl]
      exact (ih (hbefore hrequests)).command command
  | completed result _ ih =>
      rw [← hrequests _ _ [] rfl]
      exact (ih (hbefore hrequests)).completed result

/-- In order, a run of either loop is a run of the other. -/
theorem run_inOrder_iff {events : List (Event C)} {inFlight : List Request} (h : InOrder events) :
    Run monitor (settings.sequenced .ordered) events inFlight ↔
      Run monitor (settings.sequenced .unordered) events inFlight := by
  have hrequests : ∀ before event later, events = before ++ event :: later →
      (effectAfter monitor (settings.sequenced .unordered) before event).requests =
        (effectAfter monitor (settings.sequenced .ordered) before event).requests := by
    intro before event later hsplit
    rw [effect_inOrder (h.next hsplit)]
  constructor
  · intro hrun
    exact hrun.congr hrequests
  · intro hrun
    refine hrun.congr ?_
    intro before event later hsplit
    exact (hrequests before event later hsplit).symm

end PollLoop

/-! ## Everything as it comes -/

namespace Monitor

variable {P V C : Type}

/-- A view and the number of the latest batch, after an event: a payload is folded in if it decodes,
and may start a batch; a response is folded in if it belongs to the latest batch and is not refused;
operator input is folded in. -/
def take (monitor : Monitor P V C) : V × Nat → Event C → V × Nat
  | (view, batch), .tick => (view, batch)
  | (view, batch), .primary _ result =>
      match monitor.read result with
      | .ok payload =>
          ((monitor.apply view payload).view,
            if (monitor.apply view payload).followUps.isSome then batch + 1 else batch)
      | .error _ => (view, batch)
  | (view, batch), .followUp issued endpoint result =>
      if issued = batch then
        match result.bind (monitor.applyFollowUp view endpoint) with
        | .ok (filed, _) => (filed, batch)
        | .error _ => (view, batch)
      else (view, batch)
  | (view, batch), .command command => ((monitor.command view command).1, batch)

/-- The initial view with all that the events bring folded in. -/
def taken (monitor : Monitor P V C) (events : List (Event C)) : V × Nat :=
  events.foldl monitor.take (monitor.initial, 0)

theorem taken_concat (monitor : Monitor P V C) (events : List (Event C)) (event : Event C) :
    monitor.taken (events ++ [event]) = monitor.take (monitor.taken events) event := by
  unfold taken
  rw [List.foldl_append]
  rfl

end Monitor

namespace PollLoop

variable {P V C : Type} {monitor : Monitor P V C} {settings : PollSettings}

/-- A loop that takes nothing for overtaken takes everything as it comes. -/
theorem step_take {loop : PollLoop V} {event : Event C}
    (h : ∀ tick, loop.sequencer.isSuperseded tick = false) :
    ((step monitor settings loop event).loop.feed.view,
        (step monitor settings loop event).loop.batch) =
      monitor.take (loop.feed.view, loop.batch) event := by
  have hacts := acts_step monitor settings loop event
  generalize step monitor settings loop event = effect at hacts ⊢
  cases hacts with
  | tick => rfl
  | command command => rfl
  | @superseded tick result overtaken log =>
      rw [h tick] at overtaken
      exact nomatch overtaken
  | payload current read => simp [Monitor.take, read, onPayload]
  | failure current read => simp [Monitor.take, read, onFailure]
  | discarded other log => simp [Monitor.take, other]
  | filed filed => simp [Monitor.take, Except.bind, filed]
  | unfiled failed log => simp [Monitor.take, failed]

/-- In unordered mode the view is all that came in, taken as it came. -/
theorem reached_taken (unordered : settings.sequencing = .unordered) (events : List (Event C)) :
    ((reached monitor settings events).feed.view, (reached monitor settings events).batch) =
      monitor.taken events := by
  induction events using List.reverseRecOn with
  | nil => rfl
  | append_singleton events event ih =>
      rw [Monitor.taken_concat, ← ih, reached_concat]
      refine step_take ?_
      intro tick
      rw [TickSequencer.isSuperseded_eq, reached_mode, unordered]
      rfl

/-- And the accepted tick is that of the latest response that decoded. -/
theorem accepted_latest (unordered : settings.sequencing = .unordered) (events : List (Event C)) :
    (reached monitor settings events).feed.health.acceptedTick =
      (decodedTicks monitor events).getLast? := by
  induction events using List.reverseRecOn with
  | nil => rfl
  | append_singleton events event ih =>
      rw [decodedTicks_concat, reached_concat]
      unfold effectAfter
      rcases takes_or_not monitor settings (reached monitor settings events) event with
        ⟨⟨_, _, hkept⟩, hdropped⟩ | ⟨number, result, payload, rfl, hread, _, _, _, hnew⟩
      · have hnone : event.decodedTick? monitor = none := by
          cases event with
          | primary number result =>
              cases hread : monitor.read result with
              | error error => simp [Event.decodedTick?, hread]
              | ok payload =>
                  -- nothing that decodes is dropped in this mode
                  have hover := hdropped number result payload rfl hread
                  rw [TickSequencer.isSuperseded_eq, reached_mode, unordered] at hover
                  cases hover
          | tick => rfl
          | followUp batch endpoint result => rfl
          | command command => rfl
        rw [hkept, hnone, ih, Option.toList_none, List.append_nil]
      · rw [hnew]
        simp [Event.decodedTick?, hread]

/-- Events in which the responses to the ticks come in the order of the ticks drive the loops of
both modes alike: what is a run of one is a run of the other, the feeds are the same at every point,
and every event issues the same requests and is announced or not by both. Whatever the order, in
unordered mode the view is the initial one with all that came in folded in as it came, and the
accepted tick is that of the latest response that decoded. -/
theorem sequencing_modes_agree {P V C : Type} (monitor : Monitor P V C) (settings : PollSettings) :
    (∀ events : List (Event C), InOrder events →
      (∀ inFlight, Run monitor (settings.sequenced .ordered) events inFlight ↔
        Run monitor (settings.sequenced .unordered) events inFlight) ∧
      (reached monitor (settings.sequenced .ordered) events).feed =
        (reached monitor (settings.sequenced .unordered) events).feed ∧
      ∀ before event later, events = before ++ event :: later →
        (reached monitor (settings.sequenced .ordered) before).feed =
          (reached monitor (settings.sequenced .unordered) before).feed ∧
        (effectAfter monitor (settings.sequenced .ordered) before event).requests =
          (effectAfter monitor (settings.sequenced .unordered) before event).requests ∧
        (effectAfter monitor (settings.sequenced .ordered) before event).notified =
          (effectAfter monitor (settings.sequenced .unordered) before event).notified) ∧
    ∀ events : List (Event C),
      ((reached monitor (settings.sequenced .unordered) events).feed.view,
          (reached monitor (settings.sequenced .unordered) events).batch) = monitor.taken events ∧
        (reached monitor (settings.sequenced .unordered) events).feed.health.acceptedTick =
          (decodedTicks monitor events).getLast? := by
  refine ⟨?_, ?_⟩
  · intro events h
    have hfeed : ∀ {events : List (Event C)}, InOrder events →
        (reached monitor (settings.sequenced .ordered) events).feed =
          (reached monitor (settings.sequenced .unordered) events).feed := by
      intro events h
      rw [reached_inOrder h]
      rfl
    refine ⟨fun inFlight => run_inOrder_iff h, hfeed h, ?_⟩
    intro before event later hsplit
    have hnext := h.next hsplit
    rw [effect_inOrder hnext]
    exact ⟨hfeed hnext.of_append, rfl, rfl⟩
  · intro events
    exact ⟨reached_taken rfl events, accepted_latest rfl events⟩

/-- The first response does not arrive, the second one is a list of ids. -/
def firstLost : List (Event ClientList.Command) :=
  [.tick, .tick, .primary 1 (.error (.transport .clients "refused")),
    .primary 2 (.ok (.strings ["a"]))]

/-- The second response overtakes the first one. -/
def overtaking : List (Event ClientList.Command) :=
  [.tick, .tick, .primary 2 (.ok (.strings ["a"])), .primary 1 (.ok (.strings ["c"]))]

/-- In either mode the feed shows the second response after the first one was lost. Where it is
overtaken, the first response wins in unordered mode. -/
theorem modes_agree_after_loss :
    InOrder firstLost ∧
      (∃ inFlight,
        Run ClientList.monitor (PollSettings.standard.sequenced .ordered) firstLost inFlight ∧
        Run ClientList.monitor (PollSettings.standard.sequenced .unordered) firstLost inFlight) ∧
      (reached ClientList.monitor (PollSettings.standard.sequenced .ordered) firstLost).feed =
        (reached ClientList.monitor (PollSettings.standard.sequenced .unordered) firstLost).feed ∧
      (reached ClientList.monitor (PollSettings.standard.sequenced .unordered)
        firstLost).feed.health.acceptedTick = some 2 ∧
      (reached ClientList.monitor (PollSettings.standard.sequenced .unordered)
        overtaking).feed.view.clients.items = ["c"] ∧
      (reached ClientList.monitor (PollSettings.standard.sequenced .unordered)
        overtaking).feed.health.acceptedTick = some 1 := by
  obtain ⟨hagree, htaken⟩ := sequencing_modes_agree ClientList.monitor .standard
  have horder : InOrder firstLost := by decide
  obtain ⟨hruns, hfeeds, _⟩ := hagree firstLost horder
  obtain ⟨⟨inFlight, hrun⟩, _⟩ := Run.either_order ClientList.monitor
    (PollSettings.standard.sequenced .ordered) (.error (.transport .clients "refused"))
    (.ok (.strings ["a"]))
  refine ⟨horder, ⟨inFlight, hrun, (hruns inFlight).mp hrun⟩, hfeeds, ?_, ?_, ?_⟩
  · rw [(htaken firstLost).2]
    decide +kernel
  · have hview := congrArg Prod.fst (htaken overtaking).1
    dsimp only at hview
    rw [hview]
    decide +kernel
  · rw [(htaken overtaking).2]
    decide +kernel

end PollLoop

end NfsWatch
