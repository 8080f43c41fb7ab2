import NfsWatch.Proofs.Poll.Batches
import NfsWatch.Proofs.Poll.Failures

/-!
# What becomes of the requests of a batch

A batch may ask for the same thing several times, and then each of these requests is answered for
itself. So requests are counted: as many were issued as were answered and are still on their way
(`Run.accounts`).
-/

namespace NfsWatch

/-- The request of a batch that an event answers. -/
def Event.answered? {C : Type} : Event C → Option Request
  | .followUp batch endpoint _ => some (.followUp batch endpoint)
  | _ => none

namespace PollLoop

variable {P V C : Type} {monitor : Monitor P V C} {settings : PollSettings}

/-- The requests of batches that were answered, in the order of the answers. -/
def answered (events : List (Event C)) : List Request := events.filterMap Event.answered?

theorem answered_concat (events : List (Event C)) (event : Event C) :
    answered (events ++ [event]) = answered events ++ event.answered?.toList := by
  unfold answered
  rw [List.filterMap_append]
  cases h : event.answered? <;> simp [h]

theorem mem_answered {events : List (Event C)} {batch : Nat} {endpoint : Endpoint}
    {result : Fetched Json} (h : Event.followUp batch endpoint result ∈ events) :
    Request.followUp batch endpoint ∈ answered events :=
  List.mem_filterMap.mpr ⟨_, h, rfl⟩

theorem count_completed (request : Request) (result : Fetched Json) (batch : Nat)
    (endpoint : Endpoint) :
    (request.completed result : Event C).answered?.toList.count (.followUp batch endpoint) =
      [request].count (.followUp batch endpoint) := by
  cases request <;> rfl

/-- The books stay balanced if the request that an event answers is taken off. -/
theorem accounts_concat {events : List (Event C)} {inFlight remaining : List Request}
    {request : Request} (event : Event C)
    (hanswered : event.answered?.toList.count request + remaining.count request =
      inFlight.count request)
    (h : (answered events).count request + inFlight.count request =
      (requests monitor settings events).count request) :
    (answered (events ++ [event])).count request +
        (remaining ++ (effectAfter monitor settings events event).requests).count request =
      (requests monitor settings (events ++ [event])).count request := by
  rw [answered_concat, requests_concat, List.count_append, List.count_append, List.count_append]
  omega

/-- Of the requests of a batch as many were issued as were answered and are on their way. -/
theorem Run.accounts {events : List (Event C)} {inFlight : List Request}
    (h : Run monitor settings events inFlight) (batch : Nat) (endpoint : Endpoint) :
    (answered events).count (.followUp batch endpoint) +
        inFlight.count (.followUp batch endpoint) =
      (requests monitor settings events).count (.followUp batch endpoint) := by
  induction h with
  | start => rfl
  | tick _ ih => exact accounts_concat .tick (Nat.zero_add _) ih
  | command command _ ih => exact accounts_concat (.command command) (Nat.zero_add _) ih
  | @completed events earlier later request result _ ih =>
      refine accounts_concat (request.completed result) ?_ ih
      have hsplit : request :: later = [request] ++ later := rfl
      rw [count_completed, List.count_append, List.count_append, hsplit, List.count_append]
      omega

/-- No request of a batch to come was issued yet. -/
theorem not_issued_of_lt (events : List (Event C)) {batch : Nat}
    (h : (reached monitor settings events).batch < batch) (endpoint : Endpoint) :
    Request.followUp batch endpoint ∉ requests monitor settings events := by
  induction events using List.reverseRecOn with
  | nil => exact List.not_mem_nil
  | append_singleton events event ih =>
      have hmono := @batch_mono _ _ _ monitor settings events [event]
      rw [requests_concat, List.mem_append, not_or]
      refine ⟨ih (Nat.lt_of_le_of_lt hmono h), ?_⟩
      intro hissued
      exact absurd (batch_of_issued hissued).2 (Nat.ne_of_lt h)

end PollLoop

end NfsWatch
