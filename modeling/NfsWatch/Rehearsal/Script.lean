import NfsWatch.Endpoint

/-!
# Script — responses laid out in advance

Each endpoint has a queue of responses. A request takes the head of its queue at the moment it is
issued; the last response of a queue stays and answers every later request. A request to an
endpoint without a queue fails. All requests and all values sent are remembered in order.
What each operation does to the queues is said once, by the lemmas on `queue`.
-/

namespace NfsWatch

structure Response where
  delayMs : Nat
  result : Fetched Json
deriving Inhabited

structure Script where
  /-- The queues; an endpoint has at most one, and none of them is empty. -/
  queues : List (Endpoint × List Response)
  requests : List Endpoint
  posts : List (Endpoint × Json)
deriving Inhabited

namespace Script

def empty : Script := ⟨[], [], []⟩

def queue (script : Script) (endpoint : Endpoint) : List Response :=
  (script.queues.lookup endpoint).getD []

def withQueue (script : Script) (endpoint : Endpoint) (queue : List Response) : Script :=
  { script with
    queues := (endpoint, queue) :: script.queues.filter (fun entry => entry.1 != endpoint) }

theorem queue_withQueue_self (script : Script) (endpoint : Endpoint) (queue : List Response) :
    (script.withQueue endpoint queue).queue endpoint = queue := by
  simp [Script.queue, withQueue]

theorem queue_withQueue_other {endpoint other : Endpoint} (h : other ≠ endpoint) (script : Script)
    (queue : List Response) :
    (script.withQueue endpoint queue).queue other = script.queue other := by
  have hkept : (script.queues.filter fun entry => entry.1 != endpoint).lookup other =
      script.queues.lookup other := by
    induction script.queues with
    | nil => rfl
    | cons entry rest ih =>
        obtain ⟨key, waiting⟩ := entry
        by_cases hkey : key = endpoint
        · subst hkey
          rw [List.filter_cons_of_neg (by simp), ih, List.lookup_cons, beq_false_of_ne h]
        · rw [List.filter_cons_of_pos (by simpa using hkey), List.lookup_cons, List.lookup_cons, ih]
  unfold Script.queue withQueue
  rw [List.lookup_cons, beq_false_of_ne h, hkept]

def push (script : Script) (endpoint : Endpoint) (response : Response) : Script :=
  script.withQueue endpoint (script.queue endpoint ++ [response])

theorem queue_push_self (script : Script) (endpoint : Endpoint) (response : Response) :
    (script.push endpoint response).queue endpoint = script.queue endpoint ++ [response] :=
  queue_withQueue_self ..

theorem queue_push_other {endpoint other : Endpoint} (h : other ≠ endpoint) (script : Script)
    (response : Response) : (script.push endpoint response).queue other = script.queue other :=
  queue_withQueue_other h ..

/-- The response to a request that no queue answers. -/
def unanswered (endpoint : Endpoint) : Response :=
  ⟨0, .error (.transport endpoint "no scripted response")⟩

def fetch (script : Script) (endpoint : Endpoint) : Response × Script :=
  let asked := { script with requests := script.requests ++ [endpoint] }
  match script.queue endpoint with
  | [] => (unanswered endpoint, asked)
  | [last] => (last, asked)
  | head :: rest => (head, asked.withQueue endpoint rest)

theorem fetch_response (script : Script) (endpoint : Endpoint) :
    (script.fetch endpoint).1 = (script.queue endpoint).headD (unanswered endpoint) := by
  unfold fetch
  split
  next h => rw [h]; rfl
  next h => rw [h]; rfl
  next h => rw [h]; rfl

/-- Only where nothing answers, nothing is consumed; the request is remembered all the same. -/
theorem fetch_unanswered {script : Script} {endpoint : Endpoint} (h : script.queue endpoint = []) :
    script.fetch endpoint =
      (unanswered endpoint, { script with requests := script.requests ++ [endpoint] }) := by
  simp only [fetch, h]

theorem queue_fetch_self (script : Script) (endpoint : Endpoint) :
    (script.fetch endpoint).2.queue endpoint =
      if 1 < (script.queue endpoint).length then (script.queue endpoint).tail
      else script.queue endpoint := by
  unfold fetch
  split
  next h => rw [h]; exact h
  next last h => rw [h]; exact h
  next head rest hrest h =>
    rw [queue_withQueue_self, h, if_pos, List.tail_cons]
    exact Nat.succ_lt_succ (List.length_pos_iff.mpr fun hnil => hrest hnil)

theorem queue_fetch_other {endpoint other : Endpoint} (h : other ≠ endpoint) (script : Script) :
    (script.fetch endpoint).2.queue other = script.queue other := by
  unfold fetch
  split
  · rfl
  · rfl
  · exact queue_withQueue_other h _ _

theorem fetch_requests (script : Script) (endpoint : Endpoint) :
    (script.fetch endpoint).2.requests = script.requests ++ [endpoint] := by
  unfold fetch
  split <;> rfl

def post (script : Script) (endpoint : Endpoint) (body : Json) : Script :=
  { script with posts := script.posts ++ [(endpoint, body)] }

def counts (script : Script) : Table Nat :=
  script.requests.foldl
    (fun table endpoint =>
      table.insert endpoint.path ((table.find? endpoint.path).getD 0 + 1))
    .empty

end Script

end NfsWatch
