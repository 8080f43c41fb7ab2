import Mathlib.Order.Nat
import NfsWatch.Proofs.Poll.Batches
import NfsWatch.Proofs.Poll.Driven

/-!
# Live loops on a clock

A timeline says when what happened to a live loop happened. Its clock is one on which nothing is
missed: time passes only up to the next instant at which the loop has something to do. At one
instant everything may happen in any order, responses may take any time and hold anything, and
operator input may come as it likes.

None of that moves the requests of the ticks: the loop has always ticked as often as the interval
says (`OnSchedule`), so any two timelines have the same requests at the same instants.
-/

namespace NfsWatch

namespace LiveLoop

variable {P V C : Type}

/-- Nothing is to be done before this instant. -/
structure IdleUntil (live : LiveLoop P V C) (instant : Nat) : Prop where
  commands : live.commands = []
  tick : ∀ next, live.nextTick = some next → instant ≤ next
  arrivals : ∀ flight ∈ live.inFlight, instant ≤ flight.dueMs

/-- Ticks apart, what may happen now: a response is taken once it has arrived, and operator input is
queued and handled at any time. -/
def Happening.Timely (now : Nat) : Happening C → Prop
  | ticked _ => False
  | answered flight _ => flight.dueMs ≤ now
  | handled _ _ | queued _ => True

/-- What happened when to a loop that began at some instant, with the instant now and the loop. -/
inductive Timeline (monitor : Monitor P V C) (settings : PollSettings) (begun : Nat) :
    List (Nat × Happening C) → Nat → LiveLoop P V C → Prop
  /-- The loop begins, and is to tick at once. -/
  | begins : Timeline monitor settings begun [] begun
      { spawn monitor settings with nextTick := some begun }
  /-- The loop ticks when that is due, and is to tick again after the interval. -/
  | ticks {history : List (Nat × Happening C)} {now next : Nat} {live after : LiveLoop P V C}
      {issued : List InFlight} :
      Timeline monitor settings begun history now live →
      live.nextTick = some next → next ≤ now → live.Takes (.ticked issued) after →
      (∀ flight ∈ issued, now ≤ flight.dueMs) →
      Timeline monitor settings begun (history ++ [(now, .ticked issued)]) now
        { after with nextTick := some (next + settings.intervalMs) }
  | takes {history : List (Nat × Happening C)} {now : Nat} {live after : LiveLoop P V C}
      {happening : Happening C} :
      Timeline monitor settings begun history now live →
      happening.Timely now → live.Takes happening after →
      (∀ flight ∈ happening.issued, now ≤ flight.dueMs) →
      Timeline monitor settings begun (history ++ [(now, happening)]) now after
  /-- The owner takes note of notifications. -/
  | sees {history : List (Nat × Happening C)} {now : Nat} {live : LiveLoop P V C} (seen : Nat) :
      Timeline monitor settings begun history now live →
      Timeline monitor settings begun history now { live with seen }
  | passes {history : List (Nat × Happening C)} {now later : Nat} {live : LiveLoop P V C} :
      Timeline monitor settings begun history now live → now ≤ later → live.IdleUntil later →
      Timeline monitor settings begun history later live

/-- The requests issued, each with its instant. -/
def issues (history : List (Nat × Happening C)) : List (Nat × Request) :=
  history.flatMap fun entry =>
    (entry.2.issued.map InFlight.request).map fun request => (entry.1, request)

/-- Those among them that ticks issued. -/
def primaries (history : List (Nat × Happening C)) : List (Nat × Request) :=
  (issues history).filter fun entry => entry.2.tick?.isSome

theorem issues_concat (history : List (Nat × Happening C)) (now : Nat) (happening : Happening C) :
    issues (history ++ [(now, happening)]) =
      issues history ++
        (happening.issued.map InFlight.request).map fun request => (now, request) := by
  simp [issues]

theorem primaries_concat (history : List (Nat × Happening C)) (now : Nat)
    (happening : Happening C) :
    primaries (history ++ [(now, happening)]) =
      primaries history ++
        ((happening.issued.map InFlight.request).filter fun request => request.tick?.isSome).map
          fun request => (now, request) := by
  unfold primaries
  rw [issues_concat, List.filter_append, List.filter_map]
  rfl

variable {monitor : Monitor P V C} {settings : PollSettings} {begun now : Nat}
  {history : List (Nat × Happening C)} {live after : LiveLoop P V C}

theorem Timeline.driven (h : Timeline monitor settings begun history now live) :
    live.Driven monitor settings (history.map Prod.snd) := by
  induction h with
  | begins => exact (driven_spawn monitor settings).quiet (some begun) 0
  | @ticks history now next live after issued _ _ _ htakes _ ih =>
      rw [List.map_append]
      exact (ih.takes htakes).quiet _ after.seen
  | takes _ _ htakes _ ih =>
      rw [List.map_append]
      exact ih.takes htakes
  | @sees history now live seen _ ih => exact ih.quiet live.nextTick seen
  | passes _ _ _ ih => exact ih

/-! ## Where requests come from -/

theorem issues_split {instant : Nat} {request : Request}
    (h : (instant, request) ∈ issues history) :
    ∃ before happening later, history = before ++ (instant, happening) :: later ∧
      request ∈ happening.issued.map InFlight.request := by
  obtain ⟨⟨_, happening⟩, hentry, hmem⟩ := List.mem_flatMap.mp h
  obtain ⟨_, hrequest, hpair⟩ := List.mem_map.mp hmem
  obtain ⟨rfl, rfl⟩ := Prod.mk.inj hpair
  obtain ⟨before, later, hsplit⟩ := List.append_of_mem hentry
  exact ⟨before, happening, later, hsplit, hrequest⟩

theorem Timeline.issued_eq (h : Timeline monitor settings begun history now live)
    {before later : List (Nat × Happening C)} {instant : Nat} {happening : Happening C}
    (hsplit : history = before ++ (instant, happening) :: later) (hissued : happening.issued ≠ []) :
    ∃ event, happening.event? = some event ∧
      happening.issued.map InFlight.request =
        (PollLoop.effectAfter monitor settings (events (before.map Prod.snd)) event).requests := by
  -- the last entry is one of the loop as it was before, and for the others the rest is the same
  induction h generalizing later with
  | begins => exact absurd hsplit (by simp)
  | ticks hbefore _ _ htakes _ ih =>
      rcases PollLoop.split_concat hsplit with ⟨rfl, hlast, _⟩ | ⟨between, hbetween, _⟩
      · obtain ⟨rfl, rfl⟩ := Prod.mk.inj hlast
        exact hbefore.driven.issued_of_takes htakes hissued
      · exact ih hbetween
  | takes hbefore _ htakes _ ih =>
      rcases PollLoop.split_concat hsplit with ⟨rfl, hlast, _⟩ | ⟨between, hbetween, _⟩
      · obtain ⟨rfl, rfl⟩ := Prod.mk.inj hlast
        exact hbefore.driven.issued_of_takes htakes hissued
      · exact ih hbetween
  | sees _ _ ih => exact ih hsplit
  | passes _ _ _ ih => exact ih hsplit

/-- A request was issued upon an event that came at that instant, with all that this event issues.
-/
theorem Timeline.issuer (h : Timeline monitor settings begun history now live) {instant : Nat}
    {request : Request} (hissued : (instant, request) ∈ issues history) :
    ∃ before happening later event, history = before ++ (instant, happening) :: later ∧
      happening.event? = some event ∧
      happening.issued.map InFlight.request =
        (PollLoop.effectAfter monitor settings (events (before.map Prod.snd)) event).requests ∧
      request ∈
        (PollLoop.effectAfter monitor settings (events (before.map Prod.snd)) event).requests := by
  obtain ⟨before, happening, later, hsplit, hmem⟩ := issues_split hissued
  obtain ⟨flight, hflight, _⟩ := List.mem_map.mp hmem
  obtain ⟨event, hevent, hrequests⟩ := h.issued_eq hsplit (List.ne_nil_of_mem hflight)
  exact ⟨before, happening, later, event, hsplit, hevent, hrequests, hrequests ▸ hmem⟩

/-! ## Ticks -/

/-- The happening of a tick hands out the next number and issues one request, for the endpoint of
the loop. -/
theorem Takes.ticked_eq {issued : List InFlight} (h : live.Takes (.ticked issued) after) :
    after.state.sequencer.issued = live.state.sequencer.issued + 1 ∧
      issued.map InFlight.request =
        [.primary (live.state.sequencer.issued + 1) live.monitor.endpoint] ∧
      after.nextTick = live.nextTick := by
  cases h with
  | ticked hissued => exact ⟨rfl, hissued, rfl⟩

/-- Anything else hands out no number, issues no request of a tick and leaves the clock alone. -/
theorem Takes.timely_eq {happening : Happening C} (htimely : happening.Timely now)
    (h : live.Takes happening after) :
    after.state.sequencer.issued = live.state.sequencer.issued ∧
      (∀ flight ∈ happening.issued, flight.request.tick? = none) ∧
      after.nextTick = live.nextTick := by
  have hevent : ∀ {event : Event C} {issued : List InFlight}, event ≠ .tick →
      issued.map InFlight.request = (live.handle event).2.requests →
      (live.handle event).1.state.sequencer.issued = live.state.sequencer.issued ∧
        ∀ flight ∈ issued, flight.request.tick? = none := by
    intro event issued hne hissued
    obtain ⟨hcount, hnone⟩ := PollLoop.issued_of_ne_tick live.monitor live.settings live.state hne
    refine ⟨hcount, ?_⟩
    intro flight hmem
    refine hnone flight.request ?_
    change flight.request ∈ (live.handle event).2.requests
    rw [← hissued]
    exact List.mem_map_of_mem hmem
  cases h with
  | ticked hissued => exact absurd htimely id
  | @answered earlier later issued flight hinFlight hissued =>
      obtain ⟨hcount, hnone⟩ := hevent (flight.request.completed_ne_tick flight.result) hissued
      exact ⟨hcount, hnone, rfl⟩
  | @handled command waiting issued hcommands hissued =>
      have hne : Event.command command ≠ .tick := by simp
      obtain ⟨hcount, hnone⟩ := hevent hne hissued
      exact ⟨hcount, hnone, rfl⟩
  | queued hroom => exact ⟨rfl, by simp [Happening.issued], rfl⟩

/-! ## The schedule -/

/-- The request of the tick with this number, counted from zero. -/
def scheduled (monitor : Monitor P V C) (settings : PollSettings) (begun k : Nat) : Nat × Request :=
  (begun + k * settings.intervalMs, .primary (k + 1) monitor.endpoint)

/-- The loop has ticked as often as the clock says, at the instants that it says. -/
structure OnSchedule (monitor : Monitor P V C) (settings : PollSettings) (begun : Nat)
    (history : List (Nat × Happening C)) (now : Nat) (live : LiveLoop P V C) : Prop where
  primaries_eq : primaries history =
    (List.range live.state.sequencer.issued).map (scheduled monitor settings begun)
  nextTick_eq : live.nextTick =
    some (begun + live.state.sequencer.issued * settings.intervalMs)
  le_next : now ≤ begun + live.state.sequencer.issued * settings.intervalMs
  ticked_le : ∀ k < live.state.sequencer.issued, begun + k * settings.intervalMs ≤ now

theorem OnSchedule.ticks (h : OnSchedule monitor settings begun history now live)
    (hmonitor : live.monitor = monitor) {next : Nat} {issued : List InFlight}
    (hnext : live.nextTick = some next) (hdue : next ≤ now)
    (htakes : live.Takes (.ticked issued) after) :
    OnSchedule monitor settings begun (history ++ [(now, .ticked issued)]) now
      { after with nextTick := some (next + settings.intervalMs) } := by
  obtain ⟨hcount, hissued, _⟩ := htakes.ticked_eq
  obtain rfl : begun + live.state.sequencer.issued * settings.intervalMs = next :=
    Option.some.inj (h.nextTick_eq.symm.trans hnext)
  -- the clock has not passed the instant at which the tick was due
  obtain rfl : now = begun + live.state.sequencer.issued * settings.intervalMs :=
    Nat.le_antisymm h.le_next hdue
  have hprimaries : primaries (history ++
      [(begun + live.state.sequencer.issued * settings.intervalMs, .ticked issued)]) =
      primaries history ++ [scheduled monitor settings begun live.state.sequencer.issued] := by
    rw [primaries_concat]
    change _ ++ ((issued.map InFlight.request).filter _).map _ = _
    rw [hissued, hmonitor]
    rfl
  refine ⟨?_, ?_, ?_, ?_⟩
  · rw [hprimaries, h.primaries_eq]
    show _ = (List.range after.state.sequencer.issued).map _
    rw [hcount, List.range_succ, List.map_append]
    rfl
  · show some _ = some (begun + after.state.sequencer.issued * settings.intervalMs)
    rw [hcount, Nat.succ_mul, Nat.add_assoc]
  · show _ ≤ begun + after.state.sequencer.issued * settings.intervalMs
    rw [hcount, Nat.succ_mul]
    omega
  · intro k hk
    change k < after.state.sequencer.issued at hk
    have hle : k ≤ live.state.sequencer.issued := by omega
    exact Nat.add_le_add_left (Nat.mul_le_mul_right _ hle) begun

theorem OnSchedule.takes (h : OnSchedule monitor settings begun history now live)
    {happening : Happening C} (htimely : happening.Timely now)
    (htakes : live.Takes happening after) :
    OnSchedule monitor settings begun (history ++ [(now, happening)]) now after := by
  obtain ⟨hcount, hnone, hclock⟩ := htakes.timely_eq htimely
  have hprimaries : primaries (history ++ [(now, happening)]) = primaries history := by
    have hfilter : (happening.issued.map InFlight.request).filter
        (fun request => request.tick?.isSome) = [] := by
      rw [List.filter_eq_nil_iff]
      intro request hmem
      obtain ⟨flight, hflight, rfl⟩ := List.mem_map.mp hmem
      simp [hnone flight hflight]
    rw [primaries_concat, hfilter, List.map_nil, List.append_nil]
  refine ⟨?_, ?_, ?_, ?_⟩
  · rw [hprimaries, hcount]
    exact h.primaries_eq
  · rw [hclock, hcount]
    exact h.nextTick_eq
  · rw [hcount]
    exact h.le_next
  · rw [hcount]
    exact h.ticked_le

theorem Timeline.onSchedule (h : Timeline monitor settings begun history now live) :
    OnSchedule monitor settings begun history now live := by
  induction h with
  | begins =>
      have hstart : (spawn monitor settings).state.sequencer.issued = 0 := rfl
      refine ⟨rfl, ?_, ?_, ?_⟩
      · show some begun = some (begun + 0 * settings.intervalMs)
        rw [Nat.zero_mul, Nat.add_zero]
      · exact Nat.le_add_right ..
      · intro k hk
        exact absurd hk (Nat.not_lt_zero k)
  | ticks hbefore hnext hdue htakes _ ih =>
      exact ih.ticks hbefore.driven.monitor_eq hnext hdue htakes
  | takes _ htimely htakes _ ih => exact ih.takes htimely htakes
  | sees seen _ ih => exact ⟨ih.primaries_eq, ih.nextTick_eq, ih.le_next, ih.ticked_le⟩
  | passes _ hle hidle ih =>
      refine ⟨ih.primaries_eq, ih.nextTick_eq, hidle.tick _ ih.nextTick_eq, ?_⟩
      intro k hk
      exact Nat.le_trans (ih.ticked_le k hk) hle

/-! ## What the schedule says -/

/-- A tick whose instant has passed has come. -/
theorem OnSchedule.lt_issued (h : OnSchedule monitor settings begun history now live) {k : Nat}
    (hpassed : begun + k * settings.intervalMs < now) : k < live.state.sequencer.issued := by
  by_contra hle
  have hmul := Nat.mul_le_mul_right settings.intervalMs (Nat.le_of_not_lt hle)
  have hnow := h.le_next
  omega

/-- Once nothing is left to do now, the ticks that have come are those whose instant has come. -/
theorem OnSchedule.lt_issued_iff (h : OnSchedule monitor settings begun history now live)
    (hidle : live.IdleUntil (now + 1)) (k : Nat) :
    k < live.state.sequencer.issued ↔ begun + k * settings.intervalMs ≤ now := by
  constructor
  · intro hk
    exact h.ticked_le k hk
  · intro hcome
    by_contra hle
    have hmul := Nat.mul_le_mul_right settings.intervalMs (Nat.le_of_not_lt hle)
    have hnext := hidle.tick _ h.nextTick_eq
    omega

/-- The ticks before now are the same however many more are looked at. -/
theorem OnSchedule.before_now (h : OnSchedule monitor settings begun history now live) {count : Nat}
    (hcount : live.state.sequencer.issued ≤ count) :
    (primaries history).filter (fun entry => entry.1 < now) =
      ((List.range count).map (scheduled monitor settings begun)).filter
        fun entry => entry.1 < now := by
  obtain ⟨more, rfl⟩ := Nat.exists_eq_add_of_le hcount
  have hlater : (((List.range more).map (live.state.sequencer.issued + ·)).map
      (scheduled monitor settings begun)).filter (fun entry => entry.1 < now) = [] := by
    rw [List.filter_eq_nil_iff]
    intro entry hmem
    obtain ⟨k, hk, rfl⟩ := List.mem_map.mp hmem
    obtain ⟨extra, _, rfl⟩ := List.mem_map.mp hk
    have hmul := Nat.mul_le_mul_right settings.intervalMs
      (Nat.le_add_right live.state.sequencer.issued extra)
    have hlate : now ≤ begun + (live.state.sequencer.issued + extra) * settings.intervalMs :=
      Nat.le_trans h.le_next (Nat.add_le_add_left hmul begun)
    exact fun hbefore => absurd (of_decide_eq_true hbefore) (Nat.not_lt.mpr hlate)
  rw [h.primaries_eq, List.range_add, List.map_append, List.filter_append, hlater, List.append_nil]

section agree

variable {P' V' C' : Type} {monitor' : Monitor P' V' C'} {settings' : PollSettings}
  {history' : List (Nat × Happening C')} {live' : LiveLoop P' V' C'}

theorem scheduled_congr (hendpoint : monitor'.endpoint = monitor.endpoint)
    (hinterval : settings'.intervalMs = settings.intervalMs) (begun : Nat) :
    scheduled monitor' settings' begun = scheduled monitor settings begun := by
  funext k
  unfold scheduled
  rw [hendpoint, hinterval]

/-- Two loops for one endpoint and with one interval, begun at one instant, have issued the same
requests of ticks before now, whatever else happened to them. -/
theorem OnSchedule.agree (h : OnSchedule monitor settings begun history now live)
    (h' : OnSchedule monitor' settings' begun history' now live')
    (hendpoint : monitor'.endpoint = monitor.endpoint)
    (hinterval : settings'.intervalMs = settings.intervalMs) :
    (primaries history).filter (fun entry => entry.1 < now) =
      (primaries history').filter fun entry => entry.1 < now := by
  rw [h.before_now (Nat.le_max_left _ live'.state.sequencer.issued),
    h'.before_now (Nat.le_max_right live.state.sequencer.issued _),
    scheduled_congr hendpoint hinterval]

/-- And those at this instant as well, once neither has anything left to do now. -/
theorem OnSchedule.agree_idle (h : OnSchedule monitor settings begun history now live)
    (h' : OnSchedule monitor' settings' begun history' now live')
    (hendpoint : monitor'.endpoint = monitor.endpoint)
    (hinterval : settings'.intervalMs = settings.intervalMs)
    (hidle : live.IdleUntil (now + 1)) (hidle' : live'.IdleUntil (now + 1)) :
    primaries history = primaries history' := by
  have hcount : live.state.sequencer.issued = live'.state.sequencer.issued := by
    refine eq_of_forall_lt_iff ?_
    intro k
    rw [h.lt_issued_iff hidle, h'.lt_issued_iff hidle', hinterval]
  rw [h.primaries_eq, h'.primaries_eq, hcount, scheduled_congr hendpoint hinterval]

end agree

end LiveLoop

end NfsWatch
