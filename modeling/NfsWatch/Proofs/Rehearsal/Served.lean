import Mathlib.Logic.Relation
import NfsWatch.Rehearsal.Stage

/-!
# What is ready at an instant

At an instant the loop may tick if that is due, take any response that has arrived and handle the
operator input that waits longest. `Serves` leaves open which of these comes first. A rehearsal does
all of it in one order (`served_runAt`), and a loop that is told to stop may do any part of it in
any order before it meets the request.
-/

namespace NfsWatch

/-! ## The stage -/

/-- The requests issued are answered from the script, each no earlier than now. -/
theorem Stage.issueAll_spec (now : Nat) (stage : Stage) (requests : List Request) :
    (stage.issueAll now requests).2.map InFlight.request = requests ∧
      (∀ flight ∈ (stage.issueAll now requests).2, now ≤ flight.dueMs) ∧
      (stage.issueAll now requests).1.script.requests =
        stage.script.requests ++ requests.map Request.endpoint := by
  induction requests generalizing stage with
  | nil => exact ⟨rfl, by simp [issueAll], by simp [issueAll]⟩
  | cons request rest ih =>
      obtain ⟨hrequests, hdue, hasked⟩ := ih (stage.issue now request).1
      refine ⟨congrArg (List.cons request) hrequests, ?_, ?_⟩
      · intro flight hmem
        rcases List.mem_cons.mp hmem with rfl | hrest
        · exact Nat.le_add_right now _
        · exact hdue flight hrest
      · refine hasked.trans ?_
        show (stage.script.fetch request.endpoint).2.requests ++ _ = _
        rw [Script.fetch_requests, List.append_assoc]
        rfl

namespace LiveLoop

open Relation (ReflTransGen)

variable {P V C : Type}

/-- The stage after an event, and what is on its way for the requests of the event. -/
def fetched (now : Nat) (live : LiveLoop P V C) (stage : Stage) (event : Event C) :
    Stage × List InFlight :=
  (stage.record (live.handle event).2.log).issueAll now (live.handle event).2.requests

theorem perform_eq (now : Nat) (live : LiveLoop P V C) (stage : Stage) (event : Event C) :
    perform now (live, stage) event =
      ({ (live.handle event).1 with inFlight := live.inFlight ++ (fetched now live stage event).2 },
        (fetched now live stage event).1) := rfl

theorem fetched_spec (now : Nat) (live : LiveLoop P V C) (stage : Stage) (event : Event C) :
    (fetched now live stage event).2.map InFlight.request = (live.handle event).2.requests ∧
      (∀ flight ∈ (fetched now live stage event).2, now ≤ flight.dueMs) ∧
      (fetched now live stage event).1.script.requests =
        stage.script.requests ++
          ((fetched now live stage event).2.map InFlight.request).map Request.endpoint := by
  obtain ⟨hrequests, hdue, hasked⟩ := Stage.issueAll_spec now
    (stage.record (live.handle event).2.log) (live.handle event).2.requests
  refine ⟨hrequests, hdue, ?_⟩
  rw [show (fetched now live stage event).2.map InFlight.request = _ from hrequests]
  exact hasked

/-! ## Serving -/

/-- The loop does one of the things that are ready. -/
inductive Serves (now : Nat) (acting : OnStage P V C) : OnStage P V C → Prop
  | ticked {next : Nat} : acting.1.nextTick = some next → next ≤ now →
      Serves now acting
        (perform now
          ({ acting.1 with nextTick := some (next + acting.1.settings.intervalMs) }, acting.2)
          .tick)
  | answered {earlier later : List InFlight} {flight : InFlight} :
      acting.1.inFlight = earlier ++ flight :: later → flight.dueMs ≤ now →
      Serves now acting
        (perform now ({ acting.1 with inFlight := earlier ++ later }, acting.2)
          (flight.request.completed flight.result))
  | handled {command : C} {waiting : List C} : acting.1.commands = command :: waiting →
      Serves now acting
        (perform now ({ acting.1 with commands := waiting }, acting.2) (.command command))

/-- The loop does some of the things that are ready, or that get ready meanwhile. -/
def Served (now : Nat) : OnStage P V C → OnStage P V C → Prop := ReflTransGen (Serves now)

variable {now : Nat} {live : LiveLoop P V C} {stage : Stage}

/-- Taken off piece by piece, the input is handled as if it were taken off all at once. -/
theorem served_handleEach (commands : List C) :
    Served now ({ live with commands }, stage)
      (commands.foldl (fun acting command => perform now acting (.command command))
        ({ live with commands := [] }, stage)) := by
  induction commands generalizing live stage with
  | nil => exact .refl
  | cons command waiting ih =>
      have hone : Serves now ({ live with commands := command :: waiting }, stage)
          (perform now ({ live with commands := waiting }, stage) (.command command)) :=
        .handled rfl
      exact .head hone
        (@ih (perform now ({ live with commands := [] }, stage) (.command command)).1 _)

theorem served_handleCommands (now : Nat) (acting : OnStage P V C) :
    Served now acting (handleCommands now acting) :=
  served_handleEach acting.1.commands

theorem served_tickIfDue (now : Nat) (acting : OnStage P V C) :
    Served now acting (tickIfDue now acting) := by
  obtain ⟨live, stage⟩ := acting
  cases hnext : live.nextTick with
  | none =>
      simp only [tickIfDue, hnext]
      exact .refl
  | some next =>
      by_cases hdue : next ≤ now
      · simp only [tickIfDue, hnext, if_pos hdue]
        exact .single (.ticked hnext hdue)
      · simp only [tickIfDue, hnext, if_neg hdue]
        exact .refl

/-- Taken out from between those that are still waiting, the responses that have arrived are taken
as if the others were set apart first. -/
theorem served_takeEach (flights kept issued : List InFlight) :
    Served now ({ live with inFlight := kept ++ (flights ++ issued) }, stage)
      ((flights.filter fun flight => flight.dueMs ≤ now).foldl
        (fun acting flight => perform now acting (flight.request.completed flight.result))
        ({ live with
          inFlight := kept ++ ((flights.filter fun flight => !decide (flight.dueMs ≤ now)) ++
            issued) }, stage)) := by
  induction flights generalizing kept issued live stage with
  | nil => exact .refl
  | cons flight rest ih =>
      by_cases hdue : flight.dueMs ≤ now
      · have hone : Serves now
            ({ live with inFlight := kept ++ (flight :: rest ++ issued) }, stage)
            (perform now ({ live with inFlight := kept ++ (rest ++ issued) }, stage)
              (flight.request.completed flight.result)) := .answered rfl hdue
        have hwaiting : (flight :: rest).filter (fun flight => !decide (flight.dueMs ≤ now)) =
            rest.filter fun flight => !decide (flight.dueMs ≤ now) :=
          List.filter_cons_of_neg (by simpa using hdue)
        rw [hwaiting, List.filter_cons_of_pos (by simpa using hdue), List.foldl_cons]
        refine .head hone ?_
        rw [perform_eq, perform_eq]
        simp only [List.append_assoc]
        exact ih kept _
      · have hwaiting : (flight :: rest).filter (fun flight => !decide (flight.dueMs ≤ now)) =
            flight :: rest.filter fun flight => !decide (flight.dueMs ≤ now) :=
          List.filter_cons_of_pos (by simpa using hdue)
        rw [hwaiting, List.filter_cons_of_neg (by simpa using hdue)]
        have hkept := @ih live stage (kept ++ [flight]) issued
        simp only [List.append_assoc] at hkept
        exact hkept

theorem served_takeArrived (now : Nat) (acting : OnStage P V C) :
    Served now acting (takeArrived now acting) := by
  obtain ⟨live, stage⟩ := acting
  unfold takeArrived
  rw [List.partition_eq_filter_filter]
  have heach := @served_takeEach _ _ _ now live stage live.inFlight [] []
  simpa [Function.comp_def] using heach

/-- All that is due is served, in one of the orders in which it may be. -/
theorem served_runAt (now : Nat) (acting : OnStage P V C) :
    Served now (begin now acting) (runAt now acting) :=
  (((served_handleCommands now _).trans (served_tickIfDue now _)).trans
    (served_takeArrived now _)).trans (served_takeArrived now _)

end LiveLoop

end NfsWatch
