import Mathlib.Data.List.Basic
import Mathlib.Data.List.Induction
import NfsWatch.Rehearsal.Script

/-!
# A script is replayed in order

Responses may be laid out for an endpoint while it is already being requested. The queue of the
endpoint is always what was laid out for it from some place on, with something left as soon as
there was anything (`queue_after`). A request moves the place on only if a later response is there
by then, so one that is laid out after its predecessor was served waits until that is served again.
-/

namespace NfsWatch.Script

/-- What happens to a script. -/
inductive Action
  | push (endpoint : Endpoint) (response : Response)
  | fetch (endpoint : Endpoint)
  | post (endpoint : Endpoint) (body : Json)

namespace Action

def fetched? : Action → Option Endpoint
  | .fetch endpoint => some endpoint
  | _ => none

/-- The response that is laid out for this endpoint. -/
def laid? (endpoint : Endpoint) : Action → Option Response
  | .push target response => if target = endpoint then some response else none
  | _ => none

/-- Whether this endpoint is requested, or has a response laid out for it. -/
def isOn (endpoint : Endpoint) : Action → Bool
  | .push target _ => target == endpoint
  | .fetch target => target == endpoint
  | .post _ _ => false

/-- Of all actions, two kinds concern an endpoint. -/
theorem on_cases (endpoint : Endpoint) (action : Action) :
    action.isOn endpoint = false ∨ (∃ response, action = .push endpoint response) ∨
      action = .fetch endpoint := by
  cases action with
  | push target response =>
      by_cases h : target = endpoint
      · exact .inr (.inl ⟨response, h ▸ rfl⟩)
      · exact .inl (beq_false_of_ne h)
  | fetch target =>
      by_cases h : target = endpoint
      · exact .inr (.inr (h ▸ rfl))
      · exact .inl (beq_false_of_ne h)
  | post target body => exact .inl rfl

variable {endpoint : Endpoint} {action : Action}

theorem fetched?_eq_some_iff : action.fetched? = some endpoint ↔ action = .fetch endpoint := by
  cases action <;> simp [fetched?]

theorem laid?_off (h : action.isOn endpoint = false) : action.laid? endpoint = none := by
  cases action with
  | push target response => exact if_neg (ne_of_beq_false h)
  | fetch target => rfl
  | post target body => rfl

theorem fetched?_off (h : action.isOn endpoint = false) : action.fetched? ≠ some endpoint := by
  cases action with
  | push target response => exact nofun
  | fetch target => exact fun hsome => ne_of_beq_false h (Option.some.inj hsome)
  | post target body => exact nofun

end Action

def act (script : Script) : Action → Script
  | .push endpoint response => script.push endpoint response
  | .fetch endpoint => (script.fetch endpoint).2
  | .post endpoint body => script.post endpoint body

/-- The script after all this, from empty on. -/
def after (history : List Action) : Script := history.foldl act .empty

/-- What was laid out for an endpoint, oldest first. -/
def laid (endpoint : Endpoint) (history : List Action) : List Response :=
  history.filterMap (Action.laid? endpoint)

/-- The response to a request that is made now. -/
def answer (endpoint : Endpoint) (history : List Action) : Response :=
  ((after history).fetch endpoint).1

/-- What had happened before each request of an endpoint, where `before` had happened already. -/
def asksFrom (endpoint : Endpoint) (before : List Action) : List Action → List (List Action)
  | [] => []
  | action :: rest =>
      if action.fetched? = some endpoint then before :: asksFrom endpoint (before ++ [action]) rest
      else asksFrom endpoint (before ++ [action]) rest

/-- What had happened before each request of an endpoint. -/
def asks (endpoint : Endpoint) (history : List Action) : List (List Action) :=
  asksFrom endpoint [] history

/-- The responses to all requests of an endpoint, in the order of the requests. -/
def answers (endpoint : Endpoint) (history : List Action) : List Response :=
  (asks endpoint history).map (answer endpoint)

/-- What had happened before each request of an endpoint that found something laid out for it. -/
def servings (endpoint : Endpoint) (history : List Action) : List (List Action) :=
  (asks endpoint history).filter fun before => !(laid endpoint before).isEmpty

variable {endpoint : Endpoint} {action : Action} {history : List Action}

theorem after_concat (history : List Action) (action : Action) :
    after (history ++ [action]) = (after history).act action := by
  unfold after
  rw [List.foldl_append]
  rfl

theorem laid_concat (endpoint : Endpoint) (history : List Action) (action : Action) :
    laid endpoint (history ++ [action]) =
      laid endpoint history ++ (action.laid? endpoint).toList := by
  unfold laid
  rw [List.filterMap_append]
  cases h : action.laid? endpoint <;> simp [h]

theorem asksFrom_concat (endpoint : Endpoint) (before history : List Action) (action : Action) :
    asksFrom endpoint before (history ++ [action]) =
      asksFrom endpoint before history ++
        if action.fetched? = some endpoint then [before ++ history] else [] := by
  induction history generalizing before with
  | nil => simp [asksFrom]
  | cons first rest ih =>
      rw [List.cons_append, asksFrom, asksFrom, ih, List.append_assoc, List.singleton_append]
      split
      · rfl
      · rfl

theorem asks_off (h : action.fetched? ≠ some endpoint) :
    asks endpoint (history ++ [action]) = asks endpoint history := by
  unfold asks
  rw [asksFrom_concat, if_neg h, List.append_nil]

theorem asks_fetch (endpoint : Endpoint) (history : List Action) :
    asks endpoint (history ++ [.fetch endpoint]) = asks endpoint history ++ [history] := by
  have hfetched : (Action.fetch endpoint).fetched? = some endpoint := rfl
  unfold asks
  rw [asksFrom_concat, if_pos hfetched, List.nil_append]

theorem servings_off (h : action.fetched? ≠ some endpoint) :
    servings endpoint (history ++ [action]) = servings endpoint history := by
  unfold servings
  rw [asks_off h]

theorem servings_fetch (endpoint : Endpoint) (history : List Action) :
    servings endpoint (history ++ [.fetch endpoint]) =
      servings endpoint history ++ if laid endpoint history = [] then [] else [history] := by
  unfold servings
  rw [asks_fetch, List.filter_append]
  split
  next h => rw [List.filter_cons_of_neg (by simp [h]), List.filter_nil]
  next h => rw [List.filter_cons_of_pos (by simp [h]), List.filter_nil]

/-! ## The place in the queue -/

/-- The place from which the next request is answered, after one was answered from `place`. -/
def advance (endpoint : Endpoint) (place : Nat) (history : List Action) : Nat :=
  if place + 1 < (laid endpoint history).length then place + 1 else place

/-- The place from which the next request is answered after these. -/
def placeAfter (endpoint : Endpoint) (servings : List (List Action)) : Nat :=
  servings.foldl (advance endpoint) 0

theorem placeAfter_concat (endpoint : Endpoint) (servings : List (List Action))
    (last : List Action) :
    placeAfter endpoint (servings ++ [last]) =
      advance endpoint (placeAfter endpoint servings) last := by
  unfold placeAfter
  rw [List.foldl_append]
  rfl

theorem queue_act_off (h : action.isOn endpoint = false) (script : Script) :
    (script.act action).queue endpoint = script.queue endpoint := by
  cases action with
  | push target response => exact queue_push_other (Ne.symm (ne_of_beq_false h)) script response
  | fetch target => exact queue_fetch_other (Ne.symm (ne_of_beq_false h)) script
  | post target body => rfl

/-- The place of the next request of an endpoint. -/
def nextPlace (endpoint : Endpoint) (history : List Action) : Nat :=
  placeAfter endpoint (servings endpoint history)

/-- The queue of an endpoint is what was laid out for it from its place on, and there is always
something left of what was laid out. -/
structure Placed (endpoint : Endpoint) (history : List Action) : Prop where
  queue : (after history).queue endpoint =
    (laid endpoint history).drop (nextPlace endpoint history)
  left : laid endpoint history ≠ [] → nextPlace endpoint history < (laid endpoint history).length
  unserved : laid endpoint history = [] → servings endpoint history = []

theorem Placed.off (h : Placed endpoint history) (hoff : action.isOn endpoint = false) :
    Placed endpoint (history ++ [action]) := by
  have hlaid : laid endpoint (history ++ [action]) = laid endpoint history := by
    rw [laid_concat, Action.laid?_off hoff, Option.toList_none, List.append_nil]
  have hservings : servings endpoint (history ++ [action]) = servings endpoint history :=
    servings_off (Action.fetched?_off hoff)
  constructor
  · rw [after_concat, queue_act_off hoff, hlaid, nextPlace, hservings]
    exact h.queue
  · rw [hlaid, nextPlace, hservings]
    exact h.left
  · rw [hlaid, hservings]
    exact h.unserved

/-- What is laid out comes last in the queue, and the place stays. -/
theorem Placed.push (h : Placed endpoint history) (response : Response) :
    Placed endpoint (history ++ [.push endpoint response]) := by
  have hlaid : laid endpoint (history ++ [.push endpoint response]) =
      laid endpoint history ++ [response] := by
    have hsome : (Action.push endpoint response).laid? endpoint = some response := if_pos rfl
    rw [laid_concat, hsome, Option.toList_some]
  have hplace : nextPlace endpoint (history ++ [.push endpoint response]) =
      nextPlace endpoint history := by
    unfold nextPlace
    rw [servings_off (by exact nofun)]
  have hwithin : nextPlace endpoint history ≤ (laid endpoint history).length := by
    by_cases hempty : laid endpoint history = []
    · rw [nextPlace, h.unserved hempty]
      exact Nat.zero_le _
    · exact Nat.le_of_lt (h.left hempty)
  constructor
  · rw [after_concat, hlaid, hplace, List.drop_append_of_le_length hwithin, ← h.queue]
    exact queue_push_self _ _ _
  · intro _
    rw [hlaid, hplace, List.length_append, List.length_singleton]
    exact Nat.lt_succ_of_le hwithin
  · intro hempty
    rw [hlaid] at hempty
    exact absurd hempty (by simp)

/-- A request moves the place on exactly if the queue gives its head away. -/
theorem Placed.fetch (h : Placed endpoint history) :
    Placed endpoint (history ++ [.fetch endpoint]) := by
  have hlaid : laid endpoint (history ++ [.fetch endpoint]) = laid endpoint history := by
    have hnone : (Action.fetch endpoint).laid? endpoint = none := rfl
    rw [laid_concat, hnone, Option.toList_none, List.append_nil]
  have hqueue : (after (history ++ [.fetch endpoint])).queue endpoint =
      if 1 < ((after history).queue endpoint).length then ((after history).queue endpoint).tail
      else (after history).queue endpoint := by
    rw [after_concat]
    exact queue_fetch_self _ endpoint
  by_cases hempty : laid endpoint history = []
  · have hservings : servings endpoint (history ++ [.fetch endpoint]) =
        servings endpoint history := by
      rw [servings_fetch, if_pos hempty, List.append_nil]
    constructor
    · rw [hqueue, h.queue, hlaid, hempty, List.drop_nil, List.drop_nil]
      rfl
    · intro hlaid'
      exact absurd (hlaid.trans hempty) hlaid'
    · intro _
      rw [hservings]
      exact h.unserved hempty
  · have hplace : nextPlace endpoint (history ++ [.fetch endpoint]) =
        advance endpoint (nextPlace endpoint history) history := by
      rw [nextPlace, servings_fetch, if_neg hempty, placeAfter_concat]
      rfl
    have hlt := h.left hempty
    constructor
    · rw [hqueue, h.queue, hlaid, hplace, List.length_drop, advance]
      -- the queue has more than its head exactly if something is laid out behind the place
      by_cases hmore : nextPlace endpoint history + 1 < (laid endpoint history).length
      · rw [if_pos hmore, if_pos (by omega), List.tail_drop]
      · rw [if_neg hmore, if_neg (by omega)]
    · intro _
      rw [hlaid, hplace, advance]
      split <;> omega
    · intro hlaid'
      exact absurd (hlaid.symm.trans hlaid') hempty

theorem queue_after (endpoint : Endpoint) (history : List Action) : Placed endpoint history := by
  induction history using List.reverseRecOn with
  | nil => exact ⟨rfl, fun h => absurd rfl h, fun _ => rfl⟩
  | append_singleton history action ih =>
      rcases action.on_cases endpoint with hoff | ⟨response, rfl⟩ | rfl
      · exact ih.off hoff
      · exact ih.push response
      · exact ih.fetch

/-- A request is answered from its place, if anything was laid out by then. -/
theorem answer_eq (h : laid endpoint history ≠ []) :
    (laid endpoint history)[nextPlace endpoint history]? = some (answer endpoint history) := by
  have hplaced := queue_after endpoint history
  have hlt := hplaced.left h
  unfold answer
  rw [fetch_response, hplaced.queue, List.drop_eq_getElem_cons hlt, List.headD_cons]
  exact List.getElem?_eq_getElem hlt

/-- The requests served before a request that is served are the ones that are listed before it. -/
theorem servings_take {k : Nat} {before : List Action}
    (h : (servings endpoint history)[k]? = some before) :
    servings endpoint before = (servings endpoint history).take k ∧
      laid endpoint before ≠ [] := by
  induction history using List.reverseRecOn with
  | nil => exact nomatch h
  | append_singleton history action ih =>
      by_cases hfetched : action.fetched? = some endpoint
      · obtain rfl := Action.fetched?_eq_some_iff.mp hfetched
        rw [servings_fetch] at h ⊢
        by_cases hempty : laid endpoint history = []
        · rw [if_pos hempty, List.append_nil] at h ⊢
          exact ih h
        · rw [if_neg hempty] at h ⊢
          -- the request was served earlier, is served now, or is none that is listed
          rcases Nat.lt_trichotomy k (servings endpoint history).length with hlt | rfl | hgt
          · rw [List.getElem?_append_left hlt] at h
            rw [List.take_append_of_le_length (Nat.le_of_lt hlt)]
            exact ih h
          · rw [List.getElem?_concat_length] at h
            obtain rfl := Option.some.inj h
            exact ⟨List.take_left.symm, hempty⟩
          · have hend : (servings endpoint history ++ [history]).length ≤ k := by
              rw [List.length_append, List.length_singleton]
              exact hgt
            rw [List.getElem?_eq_none hend] at h
            exact nomatch h
      · rw [servings_off hfetched] at h ⊢
        exact ih h

/-! ## What is served -/

/-- The requests of an endpoint for which something was laid out by then are answered with what was
laid out for it, the `k`th of them with the response at `place k`, counted from 0. -/
structure ReplaysInOrder (endpoint : Endpoint) (history : List Action) (place : Nat → Nat) :
    Prop where
  served : ∀ k before, (servings endpoint history)[k]? = some before →
    (laid endpoint before)[place k]? = some (answer endpoint before)
  first : place 0 = 0
  next : ∀ k, place (k + 1) = place k ∨ place (k + 1) = place k + 1
  /-- The next request is answered with the next response exactly if that one was there by now. -/
  moves : ∀ k before, (servings endpoint history)[k]? = some before →
    (place (k + 1) = place k + 1 ↔ place k + 1 < (laid endpoint before).length)
  /-- None is skipped, and none is served before one that was laid out earlier. -/
  unskipped : ∀ k i, i < place k → ∃ j < k, place j = i

/-- The place of the `k`th request that is served. -/
def placeOf (endpoint : Endpoint) (history : List Action) (k : Nat) : Nat :=
  placeAfter endpoint ((servings endpoint history).take k)

theorem placeOf_succ {k : Nat} {before : List Action}
    (h : (servings endpoint history)[k]? = some before) :
    placeOf endpoint history (k + 1) = advance endpoint (placeOf endpoint history k) before := by
  unfold placeOf
  rw [List.take_add_one, h, Option.toList_some, placeAfter_concat]

theorem placeOf_next (endpoint : Endpoint) (history : List Action) (k : Nat) :
    placeOf endpoint history (k + 1) = placeOf endpoint history k ∨
      placeOf endpoint history (k + 1) = placeOf endpoint history k + 1 := by
  cases h : (servings endpoint history)[k]? with
  | none =>
      left
      unfold placeOf
      rw [List.take_add_one, h, Option.toList_none, List.append_nil]
  | some before =>
      rw [placeOf_succ h, advance]
      split
      · exact .inr rfl
      · exact .inl rfl

/-- What begins with 0 and grows by one at a time leaves nothing out. -/
theorem unskipped_of_next {place : Nat → Nat} (hfirst : place 0 = 0)
    (hnext : ∀ k, place (k + 1) = place k ∨ place (k + 1) = place k + 1) (k i : Nat)
    (h : i < place k) : ∃ j < k, place j = i := by
  induction k with
  | zero => omega
  | succ k ih =>
      by_cases hearlier : i < place k
      · obtain ⟨j, hj, hplace⟩ := ih hearlier
        exact ⟨j, Nat.lt_succ_of_lt hj, hplace⟩
      · refine ⟨k, Nat.lt_succ_self k, ?_⟩
        rcases hnext k with hsame | hmore
        · omega
        · omega

theorem replaysInOrder (endpoint : Endpoint) (history : List Action) :
    ReplaysInOrder endpoint history (placeOf endpoint history) where
  served := by
    intro k before h
    obtain ⟨htake, hlaid⟩ := servings_take h
    rw [placeOf, ← htake]
    exact answer_eq hlaid
  first := rfl
  next := placeOf_next endpoint history
  moves := by
    intro k before h
    rw [placeOf_succ h, advance]
    split <;> omega
  unskipped := unskipped_of_next rfl (placeOf_next endpoint history)

theorem mem_asks {before : List Action} (h : before ∈ asks endpoint history) :
    ∃ rest, history = before ++ .fetch endpoint :: rest := by
  induction history using List.reverseRecOn with
  | nil => exact nomatch h
  | append_singleton history action ih =>
      by_cases hfetched : action.fetched? = some endpoint
      · obtain rfl := Action.fetched?_eq_some_iff.mp hfetched
        rw [asks_fetch] at h
        rcases List.mem_append.mp h with hmem | hlast
        · obtain ⟨rest, hrest⟩ := ih hmem
          exact ⟨rest ++ [.fetch endpoint], by rw [hrest, List.append_assoc, List.cons_append]⟩
        · rw [List.mem_singleton.mp hlast]
          exact ⟨[], rfl⟩
      · rw [asks_off hfetched] at h
        obtain ⟨rest, hrest⟩ := ih h
        exact ⟨rest ++ [action], by rw [hrest, List.append_assoc, List.cons_append]⟩

/-- Where nothing is laid out any more once requests are made, each request finds all of it. -/
theorem laid_before {first rest before : List Action} (hfirst : .fetch endpoint ∉ first)
    (hrest : laid endpoint rest = []) (h : before ∈ asks endpoint (first ++ rest)) :
    laid endpoint before = laid endpoint (first ++ rest) := by
  obtain ⟨later, hsplit⟩ := mem_asks h
  have hall : laid endpoint (first ++ rest) = laid endpoint first := by
    unfold laid at hrest ⊢
    rw [List.filterMap_append, hrest, List.append_nil]
  rw [hall]
  rcases List.append_eq_append_iff.mp hsplit with ⟨middle, rfl, hmiddle⟩ | ⟨middle, rfl, hmiddle⟩
  · -- the request is made after all that is laid out
    unfold laid at hrest ⊢
    rw [hmiddle, List.filterMap_append] at hrest
    rw [List.filterMap_append, (List.append_eq_nil_iff.mp hrest).1, List.append_nil]
  · cases middle with
    | nil => rw [List.append_nil]
    | cons action middle =>
        obtain ⟨rfl, _⟩ := List.cons.inj hmiddle
        exact absurd (List.mem_append_right _ List.mem_cons_self) hfirst

/-- With all of it laid out first, one response after the other is served, and the last one from
then on. -/
theorem placeOf_of_all {n : Nat}
    (hall : ∀ before ∈ servings endpoint history, (laid endpoint before).length = n) (k : Nat)
    (hk : k < (servings endpoint history).length) : placeOf endpoint history k = min k (n - 1) := by
  induction k with
  | zero => exact (Nat.zero_min _).symm
  | succ k ih =>
      have hlt : k < (servings endpoint history).length := Nat.lt_of_succ_lt hk
      rw [placeOf_succ (List.getElem?_eq_getElem hlt), advance, hall _ (List.getElem_mem hlt),
        ih hlt]
      split <;> omega

/-! ## Other endpoints -/

theorem queue_act {first second : Script} (h : first.queue endpoint = second.queue endpoint)
    (action : Action) :
    (first.act action).queue endpoint = (second.act action).queue endpoint := by
  rcases action.on_cases endpoint with hoff | ⟨response, rfl⟩ | rfl
  · rw [queue_act_off hoff, queue_act_off hoff, h]
  · show (first.push endpoint response).queue endpoint = _
    rw [queue_push_self, h]
    exact (queue_push_self second endpoint response).symm
  · show (first.fetch endpoint).2.queue endpoint = _
    rw [queue_fetch_self, h]
    exact (queue_fetch_self second endpoint).symm

theorem queue_own (endpoint : Endpoint) (history : List Action) :
    (after (history.filter (Action.isOn endpoint))).queue endpoint =
      (after history).queue endpoint := by
  induction history using List.reverseRecOn with
  | nil => rfl
  | append_singleton history action ih =>
      rw [List.filter_append, after_concat]
      cases hon : action.isOn endpoint with
      | true =>
          rw [List.filter_cons_of_pos hon, List.filter_nil, after_concat]
          exact queue_act ih action
      | false =>
          rw [List.filter_cons_of_neg (Bool.not_eq_true _ ▸ hon), List.filter_nil, List.append_nil,
            queue_act_off hon]
          exact ih

theorem answer_own (endpoint : Endpoint) (history : List Action) :
    answer endpoint (history.filter (Action.isOn endpoint)) = answer endpoint history := by
  unfold answer
  rw [fetch_response, fetch_response, queue_own]

theorem answers_own (endpoint : Endpoint) (history : List Action) :
    answers endpoint (history.filter (Action.isOn endpoint)) = answers endpoint history := by
  unfold answers
  induction history using List.reverseRecOn with
  | nil => rfl
  | append_singleton history action ih =>
      rw [List.filter_append]
      by_cases hfetched : action.fetched? = some endpoint
      · obtain rfl := Action.fetched?_eq_some_iff.mp hfetched
        have hown : [Action.fetch endpoint].filter (Action.isOn endpoint) = [.fetch endpoint] :=
          List.filter_cons_of_pos (beq_self_eq_true endpoint)
        rw [hown, asks_fetch, asks_fetch, List.map_append, List.map_append, ih, List.map_singleton,
          List.map_singleton, answer_own]
      · rw [asks_off hfetched, ← ih]
        cases hon : action.isOn endpoint with
        | true => rw [List.filter_cons_of_pos hon, List.filter_nil, asks_off hfetched]
        | false =>
            rw [List.filter_cons_of_neg (Bool.not_eq_true _ ▸ hon), List.filter_nil,
              List.append_nil]

theorem requests_after (history : List Action) :
    (after history).requests = history.filterMap Action.fetched? := by
  induction history using List.reverseRecOn with
  | nil => rfl
  | append_singleton history action ih =>
      rw [after_concat, List.filterMap_append, ← ih]
      cases action with
      | push target response => exact (List.append_nil _).symm
      | fetch target => exact fetch_requests _ target
      | post target body => exact (List.append_nil _).symm

/-- However requests and the laying out of responses alternate, an endpoint is answered with what
was laid out for it, in order. If all of that came first, the requests get one response after the
other, and the last one again and again. A request before the first response fails and consumes
nothing. Nothing hangs on other endpoints, and all requests are remembered in order. -/
theorem script_replayed_in_order (endpoint : Endpoint) (history : List Action) :
    (∃ place, ReplaysInOrder endpoint history place) ∧
    (∀ first rest, history = first ++ rest → .fetch endpoint ∉ first → laid endpoint rest = [] →
      ∀ k before, (servings endpoint history)[k]? = some before →
        (laid endpoint history)[min k ((laid endpoint history).length - 1)]? =
          some (answer endpoint before)) ∧
    (laid endpoint history = [] → (after history).fetch endpoint =
      (⟨0, .error (.transport endpoint "no scripted response")⟩,
        { after history with requests := (after history).requests ++ [endpoint] })) ∧
    answers endpoint (history.filter (Action.isOn endpoint)) = answers endpoint history ∧
    (after history).requests = history.filterMap Action.fetched? := by
  have hreplays := replaysInOrder endpoint history
  refine ⟨⟨_, hreplays⟩, ?_, ?_, answers_own endpoint history, requests_after history⟩
  · intro first rest hsplit hfirst hrest k before hserved
    have hall : ∀ other ∈ servings endpoint history,
        laid endpoint other = laid endpoint history := by
      intro other hmem
      have hasked := List.mem_of_mem_filter hmem
      rw [hsplit] at hasked ⊢
      exact laid_before hfirst hrest hasked
    obtain ⟨hk, hget⟩ := List.getElem?_eq_some_iff.mp hserved
    have hplace := placeOf_of_all (fun other hmem => congrArg List.length (hall other hmem)) k hk
    rw [← hplace, ← hall before (hget ▸ List.getElem_mem hk)]
    exact hreplays.served k before hserved
  · intro hnone
    have hqueue := (queue_after endpoint history).queue
    rw [hnone, List.drop_nil] at hqueue
    exact fetch_unanswered hqueue

/-- Two responses and then three requests of the same endpoint: the second response is served twice,
and another endpoint has none. -/
theorem last_response_served_again :
    let history : List Action :=
      [.push .clients ⟨5, .ok (.strings ["a"])⟩, .push .clients ⟨0, .ok (.strings ["b"])⟩,
        .fetch .clients, .fetch .clients, .fetch .clients]
    (servings .clients history)[2]? = some (history.take 4) ∧
      answer .clients (history.take 4) = ⟨0, .ok (.strings ["b"])⟩ ∧
      laid .filesystem history = [] ∧
      ((after history).fetch .filesystem).1 =
        ⟨0, .error (.transport .filesystem "no scripted response")⟩ := by
  intro history
  have hserved : (servings .clients history)[2]? = some (history.take 4) := rfl
  have hnone : laid .filesystem history = [] := rfl
  obtain ⟨_, hall, _⟩ := script_replayed_in_order .clients history
  obtain ⟨_, _, hfails, _⟩ := script_replayed_in_order .filesystem history
  have hanswer := hall (history.take 2) (history.drop 2) rfl (by simp [history]) rfl 2 _ hserved
  exact ⟨hserved, (Option.some.inj hanswer).symm, hnone, congrArg Prod.fst (hfails hnone)⟩

-- The response laid out last was not there yet when the one before it was served first.
example :
    answers .clients
      [.fetch .clients, .push .clients ⟨0, .ok .null⟩, .fetch .clients,
        .push .filesystem ⟨0, .ok .null⟩, .push .clients ⟨0, .ok (.bool true)⟩, .fetch .clients,
        .fetch .clients] =
    [unanswered .clients, ⟨0, .ok .null⟩, ⟨0, .ok .null⟩, ⟨0, .ok (.bool true)⟩] := rfl

end NfsWatch.Script
