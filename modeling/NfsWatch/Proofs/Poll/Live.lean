import NfsWatch.Poll.Live
import NfsWatch.Proofs.Poll.Contribution

/-!
# What a live loop keeps and what it announces

A live loop moves on its own: its clock is set and ticks, requests are answered and operator input
is handled, in any order. Some parts of a view never change (`Fixed`), others never change without
the subscribers being notified (`Announces`). Of the latter the owner of the loop knows the value as
long as there is nothing unseen: `Settled` says so, and no move can undo it.
-/

namespace NfsWatch

variable {P V C X : Type}

/-! ## Parts of a view -/

/-- A part of the view that nothing changes. -/
def Fixed (monitor : Monitor P V C) (part : V → X) : Prop :=
  ∀ view contribution, part (monitor.absorb view contribution) = part view

/-- A part of the view that nothing changes unless subscribers are notified. -/
structure Announces (monitor : Monitor P V C) (part : V → X) : Prop where
  payload : ∀ view payload, (monitor.apply view payload).changed = false →
    part (monitor.apply view payload).view = part view
  response : ∀ {view endpoint response filed},
    monitor.applyFollowUp view endpoint response = .ok (filed, false) → part filed = part view
  command : ∀ view command, (monitor.command view command).2 = false →
    part (monitor.command view command).1 = part view

variable {monitor : Monitor P V C} {settings : PollSettings} {part : V → X}

theorem Fixed.step (h : Fixed monitor part) (loop : PollLoop V) (event : Event C) :
    part (PollLoop.step monitor settings loop event).loop.feed.view = part loop.feed.view := by
  rw [PollLoop.view_step]
  cases PollLoop.contribution? monitor loop event with
  | none => rfl
  | some contribution => exact h loop.feed.view contribution

theorem Announces.step (h : Announces monitor part) (loop : PollLoop V) (event : Event C)
    (hquiet : (PollLoop.step monitor settings loop event).notified = false) :
    part (PollLoop.step monitor settings loop event).loop.feed.view = part loop.feed.view := by
  have hacts := PollLoop.acts_step monitor settings loop event
  generalize PollLoop.step monitor settings loop event = effect at hacts hquiet ⊢
  cases hacts with
  | @payload tick result payload current read =>
      have hsplit : ((monitor.apply loop.feed.view payload).changed ||
        (loop.feed.health.recordSuccess tick).2) = false := hquiet
      exact h.payload loop.feed.view payload (Bool.or_eq_false_iff.mp hsplit).1
  | @filed endpoint response view changed filed =>
      change changed = false at hquiet
      subst hquiet
      exact h.response filed
  | command command => exact h.command loop.feed.view command hquiet
  | tick => rfl
  | superseded overtaken log => rfl
  | failure current read => rfl
  | discarded other log => rfl
  | unfiled failed log => rfl

namespace LiveLoop

/-! ## Moves -/

/-- An event happens to the loop, and the requests that it causes are on their way, whatever their
responses and however long these take. -/
def Performs (live : LiveLoop P V C) (event : Event C) (after : LiveLoop P V C) : Prop :=
  ∃ issued : List InFlight, issued.map InFlight.request = (live.handle event).2.requests ∧
    after = { (live.handle event).1 with inFlight := live.inFlight ++ issued }

/-- What a live loop may do next. -/
inductive Moves : LiveLoop P V C → LiveLoop P V C → Prop
  | clock (live : LiveLoop P V C) (next : Option Nat) : Moves live { live with nextTick := next }
  | tick {live after : LiveLoop P V C} : Performs live .tick after → Moves live after
  /-- A request that is on its way is answered, whichever it is. -/
  | answered {live after : LiveLoop P V C} {earlier later : List InFlight} {flight : InFlight} :
      live.inFlight = earlier ++ flight :: later →
      Performs { live with inFlight := earlier ++ later } (flight.request.completed flight.result)
        after →
      Moves live after
  | queued (live : LiveLoop P V C) (command : C) : Moves live (live.send command).1
  /-- The operator input that waits longest is handled. -/
  | handled {live after : LiveLoop P V C} {command : C} {waiting : List C} :
      live.commands = command :: waiting →
      Performs { live with commands := waiting } (.command command) after →
      Moves live after

/-- All that matters of a move: apart from its agenda, the loop is as before, or an event happened
to it. -/
theorem Moves.cases {live after : LiveLoop P V C} (h : Moves live after) :
    ∃ nextTick inFlight commands,
      after = { live with nextTick, inFlight, commands } ∨
      ∃ event, after = { (live.handle event).1 with nextTick, inFlight, commands } := by
  cases h with
  | clock next => exact ⟨next, live.inFlight, live.commands, Or.inl rfl⟩
  | tick hperforms =>
      obtain ⟨issued, _, rfl⟩ := hperforms
      exact ⟨live.nextTick, live.inFlight ++ issued, live.commands, Or.inr ⟨.tick, rfl⟩⟩
  | @answered _ earlier later flight _ hperforms =>
      obtain ⟨issued, _, rfl⟩ := hperforms
      exact ⟨live.nextTick, _, live.commands, Or.inr ⟨flight.request.completed flight.result, rfl⟩⟩
  | queued command =>
      unfold send
      split
      · exact ⟨live.nextTick, live.inFlight, live.commands ++ [command], Or.inl rfl⟩
      · exact ⟨live.nextTick, live.inFlight, live.commands, Or.inl rfl⟩
  | @handled _ command waiting _ hperforms =>
      obtain ⟨issued, _, rfl⟩ := hperforms
      exact ⟨live.nextTick, _, waiting, Or.inr ⟨.command command, rfl⟩⟩

/-! ## What moves keep -/

/-- A loop of a certain kind, whose owner has not seen more than was published. -/
structure Runs (monitor : Monitor P V C) (live : LiveLoop P V C) : Prop where
  monitor_eq : live.monitor = monitor
  seen_le : live.seen ≤ live.published

theorem runs_spawn (monitor : Monitor P V C) (settings : PollSettings) :
    Runs monitor (spawn monitor settings) := ⟨rfl, Nat.le_refl 0⟩

theorem Runs.moves {live after : LiveLoop P V C} (h : Runs monitor live)
    (hmoves : Moves live after) : Runs monitor after := by
  obtain ⟨nextTick, inFlight, commands, rfl | ⟨event, rfl⟩⟩ := hmoves.cases
  · exact ⟨h.monitor_eq, h.seen_le⟩
  · exact ⟨h.monitor_eq, Nat.le_trans h.seen_le (Nat.le_add_right ..)⟩

theorem Runs.acknowledge {live : LiveLoop P V C} (h : Runs monitor live) :
    Runs monitor live.acknowledge := ⟨h.monitor_eq, Nat.le_refl _⟩

/-- Taking note of nothing changes nothing. -/
theorem Runs.acknowledge_same {live : LiveLoop P V C} (h : Runs monitor live)
    (hnone : live.hasUnseen = false) : live.acknowledge = live := by
  have hle : live.published ≤ live.seen := Nat.le_of_not_lt (of_decide_eq_false hnone)
  exact congrArg (fun seen => ({ live with seen } : LiveLoop P V C)) (Nat.le_antisymm hle h.seen_le)

theorem Runs.fixed {live after : LiveLoop P V C} (h : Runs monitor live)
    (hfixed : Fixed monitor part) (hmoves : Moves live after) :
    part after.view = part live.view := by
  obtain ⟨nextTick, inFlight, commands, rfl | ⟨event, rfl⟩⟩ := hmoves.cases
  · rfl
  · obtain ⟨rfl, _⟩ := h
    exact hfixed.step live.state event

/-- As long as there is nothing that the owner has not seen, the part has this value. -/
def Settled (part : V → X) (value : X) (live : LiveLoop P V C) : Prop :=
  live.hasUnseen = false → part live.view = value

theorem Settled.moves {value : X} {live after : LiveLoop P V C} (h : Settled part value live)
    (hruns : Runs monitor live) (hannounces : Announces monitor part) (hmoves : Moves live after) :
    Settled part value after := by
  obtain ⟨nextTick, inFlight, commands, rfl | ⟨event, rfl⟩⟩ := hmoves.cases
  · exact h
  · intro hnothing
    have hseen := hruns.seen_le
    have hle : live.published + (if (live.handle event).2.notified then 1 else 0) ≤ live.seen :=
      Nat.le_of_not_lt (of_decide_eq_false hnothing)
    -- a notification would be unseen, as the owner has not seen more than was published
    have hquiet : (live.handle event).2.notified = false := by
      cases hnotified : (live.handle event).2.notified with
      | false => rfl
      | true =>
          rw [hnotified, if_pos rfl] at hle
          omega
    have hbefore : live.hasUnseen = false := by
      rw [hquiet] at hle
      exact decide_eq_false (Nat.not_lt.mpr hle)
    have hview : part (live.handle event).1.view = part live.view := by
      obtain ⟨rfl, _⟩ := hruns
      exact hannounces.step live.state event hquiet
    exact hview.trans (h hbefore)

/-! ## Polls answered at once -/

/-- The loop after a poll that is answered at once. -/
def polled (live : LiveLoop P V C) (response : Json) : LiveLoop P V C :=
  ((live.handle .tick).1.handle
    (.primary (live.state.sequencer.issued + 1) (.ok response))).1

theorem moves_polled (live : LiveLoop P V C) (response : Json)
    (h : ((live.handle .tick).1.handle
      (.primary (live.state.sequencer.issued + 1) (.ok response))).2.requests = []) :
    ∃ between, live.Moves between ∧ between.Moves (live.polled response) := by
  let flight : InFlight :=
    ⟨0, .primary (live.state.sequencer.issued + 1) live.monitor.endpoint, .ok response⟩
  refine ⟨{ (live.handle .tick).1 with inFlight := live.inFlight ++ [flight] },
    .tick ⟨[flight], rfl, rfl⟩, ?_⟩
  refine @LiveLoop.Moves.answered _ _ _ _ _ live.inFlight [] flight rfl ⟨[], h.symm, ?_⟩
  simp only [List.append_nil]
  rfl

end LiveLoop

end NfsWatch
