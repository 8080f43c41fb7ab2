import NfsWatch.Proofs.Monitor.ClientSummary
import NfsWatch.Proofs.Poll.Batches

/-!
# Session details belong to the sessions listed now

A session may be listed, go away and be listed again while a request for it is still on its way, so
that being listed says nothing about which request a response answers. The batch does: its number
is the generation of the list, each new list has all its sessions requested under the new number,
and a response under any other number is dropped. `session_details_current` puts this together.
-/

namespace NfsWatch.ClientSummary

open PollLoop

variable {client : String} {settings : PollSettings}

/-- What is displayed of a client after these events. -/
def shown (client : String) (settings : PollSettings) (events : List (Event Command)) : View :=
  (reached (monitor client) settings events).feed.view

/-! ## What a step does to the sessions -/

/-- What an event does to the sessions, to what is known about them and to the batch: both are given
before and after it, with the requests that it issues. -/
inductive SessionsStep (event : Event Command) (requests : List Request) :
    View × Nat → View × Nat → Prop
  | kept {view view' : View} {batch : Nat} (sessions : view'.sessions = view.sessions)
      (info : view'.sessionInfo = view.sessionInfo) (addresses : view'.addresses = view.addresses) :
      SessionsStep event requests (view, batch) (view', batch)
  /-- Other sessions are listed, and each of them is requested. -/
  | installed {view view' : View} {batch : Nat} (ids : List String)
      (sessions : view'.sessions = ⟨ids, view.sessions.generation + 1⟩)
      (info : view'.sessionInfo = .empty) (addresses : view'.addresses = [])
      (requested : requests = ids.map fun id => .followUp (batch + 1) (.session id)) :
      SessionsStep event requests (view, batch) (view', batch + 1)
  /-- The detail of a listed session is filed. -/
  | filed {view : View} {batch : Nat} {id : String} {response : Json} {detail : SessionDetail}
      (listed : id ∈ view.sessions.items)
      (answered : event = .followUp batch (.session id) (.ok response))
      (decoded : SessionDetail.decode response = .ok detail) :
      SessionsStep event requests (view, batch) (view.file id detail, batch)

theorem sessionsStep (loop : PollLoop View) (event : Event Command) {effect : Effect View}
    (h : Acts (monitor client) settings loop event effect) :
    SessionsStep event effect.requests (loop.feed.view, loop.batch)
      (effect.loop.feed.view, effect.loop.batch) := by
  cases h with
  | @payload tick result payload current read =>
      -- a batch begins exactly when other sessions are listed than before
      by_cases hsame : loop.feed.view.sessions.items = ReconciledList.ascending payload.sessions
      · obtain ⟨hinfo, haddresses, hasked⟩ := apply_same hsame
        have hbatch : (onPayload (monitor client) loop tick payload).loop.batch = loop.batch := by
          show (if (apply loop.feed.view payload).followUps.isSome then _ else _) = _
          rw [hasked]
          rfl
        rw [hbatch]
        refine .kept ?_ hinfo haddresses
        show (apply loop.feed.view payload).view.sessions = _
        rw [apply_sessions, ReconciledList.reconcileSorted_same hsame]
      · obtain ⟨hinfo, haddresses, hasked⟩ := apply_installed hsame
        have hbatch : (onPayload (monitor client) loop tick payload).loop.batch =
            loop.batch + 1 := by
          show (if (apply loop.feed.view payload).followUps.isSome then _ else _) = _
          rw [hasked]
          rfl
        have hrequests : (onPayload (monitor client) loop tick payload).requests =
            (ReconciledList.ascending payload.sessions).map fun id =>
              .followUp (loop.batch + 1) (.session id) := by
          show ((apply loop.feed.view payload).followUps.getD []).map
            (Request.followUp (onPayload (monitor client) loop tick payload).loop.batch) = _
          rw [hbatch, hasked, Option.getD_some, List.map_map]
          rfl
        rw [hbatch]
        refine .installed (ReconciledList.ascending payload.sessions) ?_ hinfo haddresses hrequests
        show (apply loop.feed.view payload).view.sessions = _
        rw [apply_sessions, ReconciledList.reconcileSorted_replaced hsame]
  | @filed endpoint response view changed filed =>
      rcases applyFollowUp_cases filed with ⟨rfl, _⟩ | ⟨id, detail, rfl, hlisted, hdecode, rfl, _⟩
      · exact .kept rfl rfl rfl
      · exact .filed hlisted rfl hdecode
  | command command =>
      obtain ⟨kind, state⟩ := command
      exact .kept (withStates_sessions ..) (withStates_sessionInfo ..) (withStates_addresses ..)
  | tick => exact .kept rfl rfl rfl
  | superseded overtaken log => exact .kept rfl rfl rfl
  | failure current read => exact .kept rfl rfl rfl
  | discarded other log => exact .kept rfl rfl rfl
  | unfiled failed log => exact .kept rfl rfl rfl

/-! ## The first list of sessions -/

/-- A loop whose first response has listed these sessions, and nothing else. -/
def listing (client : String) (settings : PollSettings) (ids : List String) : PollLoop View where
  feed := ⟨{ View.start client with confirmed := false, sessions := ⟨ids, 1⟩ },
    ⟨0, false, some 1, true, none⟩⟩
  sequencer := ⟨settings.sequencing, 1, some 1⟩
  batch := 1

theorem apply_listing {ids sorted : List String} (hsorted : ReconciledList.ascending ids = sorted)
    (hne : sorted ≠ []) :
    apply (View.start client) ⟨false, ids, [], [], []⟩ =
      ⟨(listing client settings sorted).feed.view, true, some (sorted.map Endpoint.session)⟩ := by
  obtain ⟨first, rest, rfl⟩ := List.exists_cons_of_ne_nil hne
  unfold apply ReconciledList.reconcileSorted
  rw [hsorted]
  with_unfolding_all rfl

section FirstList

variable {response : Json} {ids sorted : List String}
  (hread : (monitor client).read (.ok response) = .ok ⟨false, ids, [], [], []⟩)
  (hsorted : ReconciledList.ascending ids = sorted) (hne : sorted ≠ [])

include hread hsorted hne

/-- The first response that lists sessions has each of them requested, in ascending order. -/
theorem effect_listing :
    effectAfter (monitor client) settings [.tick] (.primary 1 (.ok response)) =
      ⟨listing client settings sorted, true,
        sorted.map fun id => .followUp 1 (.session id), []⟩ := by
  have hcurrent : (reached (monitor client) settings [.tick]).sequencer.isSuperseded 1 = false := by
    show (⟨settings.sequencing, 1, none⟩ : TickSequencer).isSuperseded 1 = false
    cases settings.sequencing <;> rfl
  have happly : (monitor client).apply (reached (monitor client) settings [.tick]).feed.view
      ⟨false, ids, [], [], []⟩ = _ := @apply_listing client settings ids sorted hsorted hne
  refine (step_payload hcurrent hread).trans ?_
  unfold onPayload
  rw [happly, TickSequencer.accept_eq hcurrent]
  simp only [Option.isSome_some, if_true, Option.getD_some, List.map_map]
  rfl

theorem reached_listing (later : List (Event Command)) :
    reached (monitor client) settings ([.tick] ++ .primary 1 (.ok response) :: later) =
      run (monitor client) settings (listing client settings sorted) later := by
  have hlisted : reached (monitor client) settings [.tick, .primary 1 (.ok response)] =
      listing client settings sorted :=
    (reached_concat [.tick] _).trans (congrArg Effect.loop (effect_listing hread hsorted hne))
  rw [← hlisted]
  unfold reached run
  rw [← List.foldl_append]
  rfl

theorem listing_run :
    Run (monitor client) settings [.tick, .primary 1 (.ok response)]
      (sorted.map fun id => .followUp 1 (.session id)) := by
  have htick : Run (monitor client) settings [.tick] [.primary 1 (.client client)] :=
    Run.start.tick
  have hlisted := @Run.completed _ _ _ _ _ _ [] [] (.primary 1 _) (.ok response) htick
  have hrequests : (effectAfter (monitor client) settings [.tick]
      ((Request.primary 1 (.client client)).completed (.ok response))).requests = _ :=
    congrArg Effect.requests (effect_listing hread hsorted hne)
  rw [hrequests] at hlisted
  exact hlisted

end FirstList

/-! ## The sessions listed now, and since when -/

/-- `install` put the sessions in place that are listed now: it replaced the list, requested each
session, and the list has stayed as it was ever since. -/
structure Installed (client : String) (settings : PollSettings)
    (events before : List (Event Command)) (install : Event Command)
    (later : List (Event Command)) : Prop where
  split : events = before ++ install :: later
  replaced : (shown client settings (before ++ [install])).sessions.generation =
    (shown client settings before).sessions.generation + 1
  requested : (effectAfter (monitor client) settings before install).requests =
    (shown client settings events).sessions.items.map fun id =>
      .followUp (reached (monitor client) settings events).batch (.session id)
  kept : ∀ soFar, soFar <+: later →
    (shown client settings (before ++ install :: soFar)).sessions =
      (shown client settings events).sessions

theorem Installed.concat {events before later : List (Event Command)} {install : Event Command}
    (h : Installed client settings events before install later) {event : Event Command}
    (hsessions : (shown client settings (events ++ [event])).sessions =
      (shown client settings events).sessions)
    (hbatch : (reached (monitor client) settings (events ++ [event])).batch =
      (reached (monitor client) settings events).batch) :
    Installed client settings (events ++ [event]) before install (later ++ [event]) where
  split := by rw [h.split, List.append_assoc, List.cons_append]
  replaced := h.replaced
  requested := by rw [hsessions, hbatch, h.requested]
  kept := by
    intro soFar hprefix
    rcases List.prefix_concat_iff.mp hprefix with rfl | hprefix
    · rw [← List.cons_append, ← List.append_assoc, ← h.split]
    · rw [hsessions, h.kept soFar hprefix]

/-- A detail that was requested when the sessions listed now were installed, and answered since. -/
def Answered (client : String) (settings : PollSettings) (events : List (Event Command))
    (id : String) (detail : SessionDetail) : Prop :=
  ∃ before install later response, Installed client settings events before install later ∧
    Event.followUp (reached (monitor client) settings events).batch (.session id)
      (.ok response) ∈ later ∧
    SessionDetail.decode response = .ok detail

theorem Answered.concat {events : List (Event Command)} {id : String} {detail : SessionDetail}
    (h : Answered client settings events id detail) {event : Event Command}
    (hsessions : (shown client settings (events ++ [event])).sessions =
      (shown client settings events).sessions)
    (hbatch : (reached (monitor client) settings (events ++ [event])).batch =
      (reached (monitor client) settings events).batch) :
    Answered client settings (events ++ [event]) id detail := by
  obtain ⟨before, install, later, response, hinstalled, hmem, hdecode⟩ := h
  refine ⟨before, install, later ++ [event], response, hinstalled.concat hsessions hbatch, ?_,
    hdecode⟩
  rw [hbatch]
  exact List.mem_append_left _ hmem

/-! ## The invariant -/

structure SessionsSound (client : String) (settings : PollSettings)
    (events : List (Event Command)) : Prop where
  batch : (reached (monitor client) settings events).batch =
    (shown client settings events).sessions.generation
  installed : (shown client settings events).sessions.items = [] ∨
    ∃ before install later, Installed client settings events before install later
  known : ∀ id detail, (shown client settings events).sessionInfo.find? id = some detail →
    id ∈ (shown client settings events).sessions.items ∧
      Answered client settings events id detail
  addresses : (shown client settings events).addresses =
    SessionDetail.addresses (shown client settings events).sessionInfo.values

variable {events : List (Event Command)} {event : Event Command}

theorem SessionsSound.kept (h : SessionsSound client settings events)
    (hsessions : (shown client settings (events ++ [event])).sessions =
      (shown client settings events).sessions)
    (hinfo : (shown client settings (events ++ [event])).sessionInfo =
      (shown client settings events).sessionInfo)
    (haddresses : (shown client settings (events ++ [event])).addresses =
      (shown client settings events).addresses)
    (hbatch : (reached (monitor client) settings (events ++ [event])).batch =
      (reached (monitor client) settings events).batch) :
    SessionsSound client settings (events ++ [event]) where
  batch := by rw [hbatch, hsessions, h.batch]
  installed := by
    rw [hsessions]
    refine h.installed.imp_right ?_
    rintro ⟨before, install, later, hinstalled⟩
    exact ⟨before, install, later ++ [event], hinstalled.concat hsessions hbatch⟩
  known := by
    intro id detail hfind
    rw [hinfo] at hfind
    obtain ⟨hlisted, hanswered⟩ := h.known id detail hfind
    exact ⟨hsessions ▸ hlisted, hanswered.concat hsessions hbatch⟩
  addresses := by rw [haddresses, hinfo, h.addresses]

theorem SessionsSound.installed_concat (h : SessionsSound client settings events)
    {ids : List String}
    (hsessions : (shown client settings (events ++ [event])).sessions =
      ⟨ids, (shown client settings events).sessions.generation + 1⟩)
    (hinfo : (shown client settings (events ++ [event])).sessionInfo = .empty)
    (haddresses : (shown client settings (events ++ [event])).addresses = [])
    (hbatch : (reached (monitor client) settings (events ++ [event])).batch =
      (reached (monitor client) settings events).batch + 1)
    (hrequested : (effectAfter (monitor client) settings events event).requests = ids.map fun id =>
      .followUp ((reached (monitor client) settings events).batch + 1) (.session id)) :
    SessionsSound client settings (events ++ [event]) where
  batch := by rw [hbatch, hsessions, h.batch]
  installed := by
    refine Or.inr ⟨events, event, [], rfl, ?_, ?_, ?_⟩
    · rw [hsessions]
    · rw [hsessions, hbatch, hrequested]
    · intro soFar hprefix
      rw [List.prefix_nil.mp hprefix]
  known := by
    intro id detail hfind
    rw [hinfo] at hfind
    exact nomatch hfind
  addresses := by
    rw [haddresses, hinfo]
    rfl

theorem SessionsSound.filed (h : SessionsSound client settings events) {id : String}
    {response : Json} {detail : SessionDetail}
    (hlisted : id ∈ (shown client settings events).sessions.items)
    (hanswered : event = .followUp (reached (monitor client) settings events).batch (.session id)
      (.ok response))
    (hdecode : SessionDetail.decode response = .ok detail)
    (hview : shown client settings (events ++ [event]) =
      (shown client settings events).file id detail)
    (hbatch : (reached (monitor client) settings (events ++ [event])).batch =
      (reached (monitor client) settings events).batch) :
    SessionsSound client settings (events ++ [event]) := by
  have hsessions : (shown client settings (events ++ [event])).sessions =
      (shown client settings events).sessions := by
    rw [hview]
    rfl
  -- a session is listed, so its list was installed at some time
  obtain ⟨before, install, later, hinstalled⟩ :=
    h.installed.resolve_left (List.ne_nil_of_mem hlisted)
  refine ⟨?_, ?_, ?_, ?_⟩
  · rw [hbatch, hsessions, h.batch]
  · exact Or.inr ⟨before, install, later ++ [event], hinstalled.concat hsessions hbatch⟩
  · intro other found hfind
    rw [hview] at hfind
    rw [hsessions]
    change (Table.insert _ id detail).find? other = some found at hfind
    rw [Table.find?_insert] at hfind
    split at hfind
    · rename_i heq
      subst heq
      cases hfind
      refine ⟨hlisted, before, install, later ++ [event], response,
        hinstalled.concat hsessions hbatch, ?_, hdecode⟩
      rw [hbatch, hanswered]
      exact List.mem_append_right _ (List.mem_singleton_self _)
    · obtain ⟨hotherListed, hotherAnswered⟩ := h.known other found hfind
      exact ⟨hotherListed, hotherAnswered.concat hsessions hbatch⟩
  · rw [hview]
    rfl

theorem sessionsSound (events : List (Event Command)) : SessionsSound client settings events := by
  induction events using List.reverseRecOn with
  | nil =>
      refine ⟨rfl, Or.inl rfl, ?_, rfl⟩
      intro id detail hfind
      exact nomatch hfind
  | append_singleton events event ih =>
      have hstep := sessionsStep _ _ (acts_effectAfter (monitor client) settings events event)
      rw [← reached_concat] at hstep
      change SessionsStep _ _ (shown client settings events, _)
        (shown client settings (events ++ [event]), _) at hstep
      generalize hbatch : (reached (monitor client) settings events).batch = batch at hstep
      generalize hbatch' : (reached (monitor client) settings (events ++ [event])).batch = batch'
        at hstep
      generalize hview' : shown client settings (events ++ [event]) = view' at hstep
      cases hstep with
      | kept sessions info addresses =>
          subst hview'
          exact ih.kept sessions info addresses (hbatch'.trans hbatch.symm)
      | installed ids sessions info addresses requested =>
          subst hview' hbatch
          exact ih.installed_concat sessions info addresses hbatch' requested
      | filed listed answered decoded =>
          subst hbatch
          exact ih.filed listed answered decoded hview' hbatch'

/-- The number of the batch is the generation of the sessions, and the addresses are those of the
details known. What is known about a session is known because it is listed and because the request
that was issued when the sessions listed now were installed has been answered; no other event
issued such a request, and no answer under that number came earlier. -/
theorem session_details_current {client : String} {settings : PollSettings}
    {events : List (Event Command)} {inFlight : List Request}
    (run : Run (monitor client) settings events inFlight) :
    (reached (monitor client) settings events).batch =
        (shown client settings events).sessions.generation ∧
      (∀ id detail, (shown client settings events).sessionInfo.find? id = some detail →
        id ∈ (shown client settings events).sessions.items ∧
        ∃ before install later response,
          Installed client settings events before install later ∧
          Request.followUp (reached (monitor client) settings events).batch (.session id) ∈
            (effectAfter (monitor client) settings before install).requests ∧
          Event.followUp (reached (monitor client) settings events).batch (.session id)
            (.ok response) ∈ later ∧
          SessionDetail.decode response = .ok detail ∧
          (∀ earlier event rest, events = earlier ++ event :: rest →
            Request.followUp (reached (monitor client) settings events).batch (.session id) ∈
              (effectAfter (monitor client) settings earlier event).requests →
            earlier = before) ∧
          ∀ result, Event.followUp (reached (monitor client) settings events).batch (.session id)
            result ∉ before ++ [install]) ∧
      (shown client settings events).addresses =
        SessionDetail.addresses (shown client settings events).sessionInfo.values := by
  have hsound := @sessionsSound client settings events
  refine ⟨hsound.batch, ?_, hsound.addresses⟩
  intro id detail hfind
  obtain ⟨hlisted, before, install, later, response, hinstalled, hanswer, hdecode⟩ :=
    hsound.known id detail hfind
  have hrequested : Request.followUp (reached (monitor client) settings events).batch
      (.session id) ∈ (effectAfter (monitor client) settings before install).requests := by
    rw [hinstalled.requested]
    exact List.mem_map.mpr ⟨id, hlisted, rfl⟩
  refine ⟨hlisted, before, install, later, response, hinstalled, hrequested, hanswer, hdecode,
    ?_, ?_⟩
  · intro earlier event rest hsplit hissued
    exact issuer_unique (hsplit.symm.trans hinstalled.split) hissued hrequested
  · intro result
    exact run.answers_later result hinstalled.split hrequested

/-- Session `a` is listed, goes away for `b` and is listed again. Its first request is answered only
then, and after that the second one. -/
def listedAgain : List (Event Command) :=
  [.tick, .tick, .tick,
    .primary 1 (.ok (.obj [("sessions", .strings ["a"])])),
    .primary 2 (.ok (.obj [("sessions", .strings ["b"])])),
    .primary 3 (.ok (.obj [("sessions", .strings ["a"])])),
    .followUp 1 (.session "a") (.ok (.obj [("channels", .strings ["old:1"])])),
    .followUp 3 (.session "a") (.ok (.obj [("channels", .strings ["new:1"])]))]

theorem listedAgain_run :
    Run (monitor "c") .standard listedAgain [.followUp 2 (.session "b")] := by
  have hticks : Run (monitor "c") .standard [.tick, .tick, .tick]
      [.primary 1 (.client "c"), .primary 2 (.client "c"), .primary 3 (.client "c")] :=
    Run.start.tick.tick.tick
  have hfirst := @Run.completed _ _ _ _ _ _ [] _ (.primary 1 _)
    (.ok (.obj [("sessions", .strings ["a"])])) hticks
  rw [show (effectAfter (monitor "c") _ _ _).requests = [.followUp 1 (.session "a")] by
    decide +kernel] at hfirst
  have hsecond := @Run.completed _ _ _ _ _ _ [] _ (.primary 2 _)
    (.ok (.obj [("sessions", .strings ["b"])])) hfirst
  rw [show (effectAfter (monitor "c") _ _ _).requests = [.followUp 2 (.session "b")] by
    decide +kernel] at hsecond
  have hthird := @Run.completed _ _ _ _ _ _ [] _ (.primary 3 _)
    (.ok (.obj [("sessions", .strings ["a"])])) hsecond
  rw [show (effectAfter (monitor "c") _ _ _).requests = [.followUp 3 (.session "a")] by
    decide +kernel] at hthird
  have hlate := @Run.followUp_answered _ _ _ _ _ _ [] _ 1 (.session "a") hthird
    (.ok (.obj [("channels", .strings ["old:1"])]))
  exact @Run.followUp_answered _ _ _ _ _ _ [.followUp 2 (.session "b")] [] 3 (.session "a") hlate
    (.ok (.obj [("channels", .strings ["new:1"])]))

/-- What the first request brings is dropped although `a` is listed, and what the second one brings
is kept. -/
theorem late_detail_dropped :
    Run (monitor "c") .standard listedAgain [.followUp 2 (.session "b")] ∧
      (reached (monitor "c") .standard listedAgain).batch = 3 ∧
      (shown "c" .standard listedAgain).sessionInfo.find? "a" = some ⟨[⟨"new", 1⟩]⟩ ∧
      (shown "c" .standard listedAgain).addresses = ["new:1"] ∧
      ∃ before install later, Installed "c" .standard listedAgain before install later := by
  have hrun := listedAgain_run
  have hfound : (shown "c" .standard listedAgain).sessionInfo.find? "a" =
      some ⟨[⟨"new", 1⟩]⟩ := by decide +kernel
  obtain ⟨hbatch, hknown, haddresses⟩ := session_details_current hrun
  refine ⟨hrun, ?_, hfound, ?_, ?_⟩
  · rw [hbatch]
    decide +kernel
  · rw [haddresses]
    decide +kernel
  · obtain ⟨_, before, install, later, _, hinstalled, _⟩ := hknown "a" _ hfound
    exact ⟨before, install, later, hinstalled⟩

end NfsWatch.ClientSummary
