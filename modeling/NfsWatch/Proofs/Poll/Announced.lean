import NfsWatch.Proofs.Poll.Live

/-!
# Changes and notifications

Two halves make the notifications of a loop worth something. Nothing changes without one: that is
`Announces` for the view as a whole, and with it the stale flag (`stale_of_quiet`). And a poll or
operator input is not announced for nothing: `Tells` says so of the monitor and `Tells.step` of the
loop, which adds the flips of the stale flag. Follow-ups are left out of the second half; a detail
that is filed anew is announced even if it is what was there.
-/

namespace NfsWatch

variable {P V C X : Type} {monitor : Monitor P V C} {settings : PollSettings}

/-- What announces every change of the view announces those of any part of it. -/
theorem Announces.part (h : Announces monitor id) (part : V → X) : Announces monitor part where
  payload := by
    intro view payload hquiet
    exact congrArg part (h.payload view payload hquiet)
  response := by
    intro view endpoint response filed hfiled
    exact congrArg part (h.response hfiled)
  command := by
    intro view command hquiet
    exact congrArg part (h.command view command hquiet)

/-- A payload or operator input that is reported as a change leaves a view that is not the same. -/
structure Tells (monitor : Monitor P V C) (Same : V → V → Prop) : Prop where
  payload : ∀ view payload, (monitor.apply view payload).changed = true →
    ¬ Same view (monitor.apply view payload).view
  command : ∀ view command, (monitor.command view command).2 = true →
    ¬ Same view (monitor.command view command).1

/-- A poll that completes, or operator input. -/
inductive Event.Direct : Event C → Prop
  | primary (tick : Nat) (result : Fetched Json) : Direct (.primary tick result)
  | command (command : C) : Direct (.command command)

namespace PollLoop

/-- What is not announced leaves the stale flag as it was. -/
theorem stale_of_quiet (loop : PollLoop V) (event : Event C)
    (hquiet : (step monitor settings loop event).notified = false) :
    (step monitor settings loop event).loop.feed.health.stale = loop.feed.health.stale := by
  have hacts := acts_step monitor settings loop event
  generalize step monitor settings loop event = effect at hacts hquiet ⊢
  cases hacts with
  | payload current read =>
      -- a feed that recovers is announced, so this one was not stale
      obtain ⟨_, hrecovered⟩ := Bool.or_eq_false_iff.mp hquiet
      exact hrecovered.symm
  | failure current read => exact bne_eq_false_iff_eq.mp hquiet
  | tick => rfl
  | superseded overtaken log => rfl
  | discarded other log => rfl
  | filed filed => rfl
  | unfiled failed log => rfl
  | command command => rfl

end PollLoop

/-- A poll or operator input that is announced changed the view or flipped the stale flag. -/
theorem Tells.step {Same : V → V → Prop} (h : Tells monitor Same) (loop : PollLoop V)
    {event : Event C} (hdirect : event.Direct)
    (hnotified : (PollLoop.step monitor settings loop event).notified = true) :
    ¬ Same loop.feed.view (PollLoop.step monitor settings loop event).loop.feed.view ∨
      (PollLoop.step monitor settings loop event).loop.feed.health.stale ≠
        loop.feed.health.stale := by
  have hacts := PollLoop.acts_step monitor settings loop event
  generalize PollLoop.step monitor settings loop event = effect at hacts hnotified ⊢
  cases hacts with
  | @payload tick result payload current read =>
      rcases Bool.or_eq_true_iff.mp hnotified with hchanged | hrecovered
      · exact Or.inl (h.payload loop.feed.view payload hchanged)
      · have hstale : loop.feed.health.stale = true := hrecovered
        rw [hstale]
        exact Or.inr Bool.false_ne_true
  | failure current read => exact Or.inr (bne_iff_ne.mp hnotified)
  | command command => exact Or.inl (h.command loop.feed.view command hnotified)
  | superseded overtaken log => exact nomatch hnotified
  | tick => exact nomatch hdirect
  | discarded other log => exact nomatch hdirect
  | filed filed => exact nomatch hdirect
  | unfiled failed log => exact nomatch hdirect

end NfsWatch
