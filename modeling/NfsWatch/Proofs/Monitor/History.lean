import NfsWatch.Proofs.Poll.Contribution

/-!
# Histories of a view

A history lists what was folded into the view of a monitor, oldest first: payloads, responses to
follow-up requests and operator input, in any order. The view of a poll loop is the view after the
history of its contributions (`PollLoop.view_history`), so what holds after every history holds in
every state of every loop.
-/

namespace NfsWatch

namespace Monitor

variable {P V C : Type} {monitor : Monitor P V C}

/-- The view after a history. -/
def viewAfter (monitor : Monitor P V C) (history : List (Contribution P C)) : V :=
  history.foldl monitor.absorb monitor.initial

/-- The view after these payloads were folded in one after the other. -/
def polled (monitor : Monitor P V C) (view : V) (payloads : List P) : V :=
  payloads.foldl (fun view payload => (monitor.apply view payload).view) view

theorem viewAfter_concat (history : List (Contribution P C)) (last : Contribution P C) :
    monitor.viewAfter (history ++ [last]) = monitor.absorb (monitor.viewAfter history) last := by
  unfold viewAfter
  rw [List.foldl_append]
  rfl

theorem polled_concat (view : V) (payloads : List P) (last : P) :
    monitor.polled view (payloads ++ [last]) =
      (monitor.apply (monitor.polled view payloads) last).view := by
  unfold polled
  rw [List.foldl_append]
  rfl

/-- What the start has and every contribution keeps. -/
structure Keeps (monitor : Monitor P V C) (Holds : V → Prop) : Prop where
  start : Holds monitor.initial
  payload : ∀ view payload, Holds view → Holds (monitor.apply view payload).view
  response : ∀ {view endpoint response filed changed},
    monitor.applyFollowUp view endpoint response = .ok (filed, changed) →
      Holds view → Holds filed
  command : ∀ view command, Holds view → Holds (monitor.command view command).1

theorem Keeps.absorb {Holds : V → Prop} (h : monitor.Keeps Holds) {view : V} (hview : Holds view)
    (contribution : Contribution P C) : Holds (monitor.absorb view contribution) := by
  cases contribution with
  | payload tick payload => exact h.payload view payload hview
  | command command => exact h.command view command hview
  | response endpoint response =>
      cases hfiled : monitor.applyFollowUp view endpoint response with
      | ok filed =>
          simp only [Monitor.absorb, hfiled]
          exact h.response hfiled hview
      | error error => simpa only [Monitor.absorb, hfiled] using hview

/-- So it holds after every history. -/
theorem Keeps.viewAfter {Holds : V → Prop} (h : monitor.Keeps Holds)
    (history : List (Contribution P C)) : Holds (monitor.viewAfter history) := by
  induction history using List.reverseRecOn with
  | nil => exact h.start
  | append_singleton history last ih =>
      rw [viewAfter_concat]
      exact h.absorb ih last

end Monitor

theorem PollLoop.view_history {P V C : Type} {monitor : Monitor P V C} {settings : PollSettings}
    (events : List (Event C)) :
    (reached monitor settings events).feed.view =
      monitor.viewAfter (contributions monitor settings events) :=
  view_reached events

end NfsWatch
