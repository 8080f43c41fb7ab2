import NfsWatch.Proofs.Poll.Failures
import NfsWatch.Proofs.Poll.Live

/-!
# What drives a live loop

A live loop ticks, is answered and handles operator input, and its owner queues input with it. Each
of these is recorded with the requests that it makes the loop issue. A loop is `Driven` by a record
if nothing else happened to it since it was spawned: then it shows what the events of the record
lead to, has issued the requests that they cause, and owes every response and all input to its own
requests and its own queue.
-/

namespace NfsWatch.LiveLoop

variable {P V C : Type}

/-- What may happen to a live loop. -/
inductive Happening (C : Type)
  /-- Its clock ticks, and it issues these requests. -/
  | ticked (issued : List InFlight)
  /-- A request on its way is answered, upon which it issues these. -/
  | answered (flight : InFlight) (issued : List InFlight)
  /-- It handles operator input, upon which it issues these. -/
  | handled (command : C) (issued : List InFlight)
  | queued (command : C)

namespace Happening

/-- The event that the loop sees. -/
def event? : Happening C → Option (Event C)
  | ticked _ => some .tick
  | answered flight _ => some (flight.request.completed flight.result)
  | handled command _ => some (.command command)
  | queued _ => none

def issued : Happening C → List InFlight
  | ticked issued | answered _ issued | handled _ issued => issued
  | queued _ => []

def answer? : Happening C → Option InFlight
  | answered flight _ => some flight
  | _ => none

def handled? : Happening C → Option C
  | handled command _ => some command
  | _ => none

def queued? : Happening C → Option C
  | queued command => some command
  | _ => none

end Happening

/-- Something happens to a live loop. A request may be answered whichever it is, the input that
waits longest is handled, and the requests issued may be answered by anything at any time. -/
inductive Takes (live : LiveLoop P V C) : Happening C → LiveLoop P V C → Prop
  | ticked {issued : List InFlight} :
      issued.map InFlight.request = (live.handle .tick).2.requests →
      Takes live (.ticked issued)
        { (live.handle .tick).1 with inFlight := live.inFlight ++ issued }
  | answered {earlier later issued : List InFlight} {flight : InFlight} :
      live.inFlight = earlier ++ flight :: later →
      issued.map InFlight.request =
        (live.handle (flight.request.completed flight.result)).2.requests →
      Takes live (.answered flight issued)
        { (live.handle (flight.request.completed flight.result)).1 with
          inFlight := earlier ++ later ++ issued }
  | handled {command : C} {waiting : List C} {issued : List InFlight} :
      live.commands = command :: waiting →
      issued.map InFlight.request = (live.handle (.command command)).2.requests →
      Takes live (.handled command issued)
        { (live.handle (.command command)).1 with
          inFlight := live.inFlight ++ issued, commands := waiting }
  | queued {command : C} : live.commands.length < commandCapacity →
      Takes live (.queued command) { live with commands := live.commands ++ [command] }

def events (since : List (Happening C)) : List (Event C) := since.filterMap Happening.event?

/-- A loop that was spawned with this monitor and these settings and that nothing but this has
driven since. -/
structure Driven (monitor : Monitor P V C) (settings : PollSettings) (since : List (Happening C))
    (live : LiveLoop P V C) : Prop where
  monitor_eq : live.monitor = monitor
  settings_eq : live.settings = settings
  /-- Its feed, its ticks and its batches are those that the events lead to. -/
  state_eq : live.state = PollLoop.reached monitor settings (events since)
  /-- What was issued are the requests of the events. -/
  issued_eq : (since.flatMap Happening.issued).map InFlight.request =
    PollLoop.requests monitor settings (events since)
  /-- What was answered and what is on its way was issued. -/
  carried : (since.filterMap Happening.answer? ++ live.inFlight).Perm
    (since.flatMap Happening.issued)
  /-- What was handled and what is waiting was queued. -/
  waiting : since.filterMap Happening.handled? ++ live.commands =
    since.filterMap Happening.queued?
  run : PollLoop.Run monitor settings (events since) (live.inFlight.map InFlight.request)

variable {monitor : Monitor P V C} {settings : PollSettings} {since : List (Happening C)}
  {live after : LiveLoop P V C}

theorem driven_spawn (monitor : Monitor P V C) (settings : PollSettings) :
    Driven monitor settings [] (spawn monitor settings) where
  monitor_eq := rfl
  settings_eq := rfl
  state_eq := rfl
  issued_eq := rfl
  carried := List.Perm.refl _
  waiting := rfl
  run := .start

/-- When the clock ticks next and what the owner has seen do not matter. -/
theorem Driven.quiet (h : Driven monitor settings since live) (nextTick : Option Nat)
    (seen : Nat) : Driven monitor settings since { live with nextTick, seen } := by
  obtain ⟨hmonitor, hsettings, hstate, hissued, hcarried, hwaiting, hrun⟩ := h
  exact ⟨hmonitor, hsettings, hstate, hissued, hcarried, hwaiting, hrun⟩

theorem filterMap_concat {α β : Type} (read : α → Option β) (items : List α) (item : α) :
    (items ++ [item]).filterMap read = items.filterMap read ++ (read item).toList := by
  cases h : read item <;> simp [h]

/-- What an event does to a driven loop is what it does after the events that drove it. -/
theorem Driven.effect_eq (h : Driven monitor settings since live) (event : Event C) :
    (live.handle event).2 = PollLoop.effectAfter monitor settings (events since) event := by
  show PollLoop.step live.monitor live.settings live.state event = _
  rw [h.monitor_eq, h.settings_eq, h.state_eq]
  rfl

/-- An event drives the loop as it would drive one that was spawned and knows nothing else. -/
theorem Driven.performs (h : Driven monitor settings since live) {happening : Happening C}
    {event : Event C} {inFlight : List InFlight} {commands : List C}
    (hevent : happening.event? = some event)
    (hissued : happening.issued.map InFlight.request = (live.handle event).2.requests)
    (hcarried : (happening.answer?.toList ++ inFlight).Perm live.inFlight)
    (hwaiting : happening.handled?.toList ++ commands = live.commands)
    (hqueued : happening.queued? = none)
    (hrun : PollLoop.Run monitor settings (events since ++ [event])
      (inFlight.map InFlight.request ++
        (PollLoop.effectAfter monitor settings (events since) event).requests)) :
    Driven monitor settings (since ++ [happening])
      { (live.handle event).1 with inFlight := inFlight ++ happening.issued, commands } := by
  have hevents : events (since ++ [happening]) = events since ++ [event] := by
    simp [events, hevent]
  have hissuedSince : (since ++ [happening]).flatMap Happening.issued =
      since.flatMap Happening.issued ++ happening.issued := by simp
  have heffect := h.effect_eq event
  have hrequests := hissued.trans (congrArg Effect.requests heffect)
  refine ⟨h.monitor_eq, h.settings_eq, ?_, ?_, ?_, ?_, ?_⟩
  · rw [hevents, PollLoop.reached_concat]
    exact congrArg Effect.loop heffect
  · rw [hevents, hissuedSince, PollLoop.requests_concat, List.map_append, h.issued_eq, hrequests]
  · -- the request that is answered only changes sides, and what is issued joins on both
    rw [hissuedSince, filterMap_concat]
    have hkept := (hcarried.append_left (since.filterMap Happening.answer?)).trans h.carried
    rw [← List.append_assoc] at hkept ⊢
    exact hkept.append_right happening.issued
  · rw [filterMap_concat, filterMap_concat, hqueued, Option.toList_none, List.append_nil,
      List.append_assoc]
    show _ ++ (happening.handled?.toList ++ commands) = _
    rw [hwaiting]
    exact h.waiting
  · rw [hevents]
    show PollLoop.Run monitor settings _ ((inFlight ++ happening.issued).map InFlight.request)
    rw [List.map_append, hrequests]
    exact hrun

/-- What is queued waits behind all that waits already. -/
theorem Driven.queue (h : Driven monitor settings since live) (command : C) :
    Driven monitor settings (since ++ [.queued command])
      { live with commands := live.commands ++ [command] } := by
  have hevents : events (since ++ [.queued command]) = events since := by
    simp [events, Happening.event?]
  have hissued : (since ++ [Happening.queued command]).flatMap Happening.issued =
      since.flatMap Happening.issued := by simp [Happening.issued]
  refine ⟨h.monitor_eq, h.settings_eq, ?_, ?_, ?_, ?_, ?_⟩
  · rw [hevents]
    exact h.state_eq
  · rw [hevents, hissued]
    exact h.issued_eq
  · rw [hissued, filterMap_concat]
    show ((since.filterMap Happening.answer? ++ []) ++ live.inFlight).Perm _
    rw [List.append_nil]
    exact h.carried
  · rw [filterMap_concat, filterMap_concat, ← h.waiting]
    show (since.filterMap Happening.handled? ++ []) ++ (live.commands ++ [command]) =
      (since.filterMap Happening.handled? ++ live.commands) ++ [command]
    rw [List.append_nil, List.append_assoc]
  · rw [hevents]
    exact h.run

theorem Driven.takes (h : Driven monitor settings since live) {happening : Happening C}
    (htakes : live.Takes happening after) :
    Driven monitor settings (since ++ [happening]) after := by
  cases htakes with
  | ticked hissued => exact h.performs rfl hissued (List.Perm.refl _) rfl rfl h.run.tick
  | @answered earlier later issued flight hcurrent hissued =>
      refine h.performs rfl hissued ?_ rfl rfl ?_
      · rw [hcurrent]
        show (flight :: (earlier ++ later)).Perm _
        exact List.perm_middle.symm
      · have hrun := h.run
        rw [hcurrent, List.map_append, List.map_cons] at hrun
        rw [List.map_append]
        exact hrun.completed flight.result
  | @handled command waiting issued hwaiting hissued =>
      exact h.performs rfl hissued (List.Perm.refl _) hwaiting.symm rfl (h.run.command command)
  | queued hroom => exact h.queue _

/-- Requests that a loop issues upon something are those of the event that it sees then. -/
theorem Driven.issued_of_takes (h : Driven monitor settings since live) {happening : Happening C}
    (htakes : live.Takes happening after) (hissued : happening.issued ≠ []) :
    ∃ event, happening.event? = some event ∧
      happening.issued.map InFlight.request =
        (PollLoop.effectAfter monitor settings (events since) event).requests := by
  cases htakes with
  | ticked hrequests => exact ⟨_, rfl, hrequests.trans (congrArg Effect.requests (h.effect_eq _))⟩
  | answered _ hrequests =>
      exact ⟨_, rfl, hrequests.trans (congrArg Effect.requests (h.effect_eq _))⟩
  | handled _ hrequests =>
      exact ⟨_, rfl, hrequests.trans (congrArg Effect.requests (h.effect_eq _))⟩
  | queued _ => exact absurd rfl hissued

/-- A loop moves by something that happens to it, or its clock is set. -/
theorem Moves.takes (h : Moves live after) :
    (∃ happening, live.Takes happening after) ∨ ∃ nextTick, after = { live with nextTick } := by
  cases h with
  | clock next => exact Or.inr ⟨next, rfl⟩
  | tick hperforms =>
      obtain ⟨issued, hissued, rfl⟩ := hperforms
      exact Or.inl ⟨_, .ticked hissued⟩
  | answered hinFlight hperforms =>
      obtain ⟨issued, hissued, rfl⟩ := hperforms
      exact Or.inl ⟨_, .answered hinFlight hissued⟩
  | queued command =>
      unfold send
      split
      · rename_i hroom
        exact Or.inl ⟨_, .queued hroom⟩
      · exact Or.inr ⟨live.nextTick, rfl⟩
  | handled hcommands hperforms =>
      obtain ⟨issued, hissued, rfl⟩ := hperforms
      exact Or.inl ⟨_, .handled hcommands hissued⟩

end NfsWatch.LiveLoop
