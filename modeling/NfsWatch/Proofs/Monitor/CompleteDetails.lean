import NfsWatch.Proofs.Monitor.FailedDetails
import NfsWatch.Proofs.Monitor.History
import NfsWatch.Proofs.Reconcile.Ascending
import NfsWatch.Proofs.Server.Addresses

/-!
# Session details do not depend on the order of arrival

Once a list of sessions is installed, each answer to one of its requests is filed under its session
and touches nothing else that is known, while polls that leave the list alone, answers to older
requests, failures and operator input touch nothing of it. So what is known after some of the
answers is what the results of the sessions answered bring (`KnownSoFar`), in whatever order they
came, and after all of them it is what the results of all sessions bring. The addresses follow from
that, as the table of details is read in the order of the ids.
-/

namespace NfsWatch.ClientSummary

open PollLoop

variable {client : String} {settings : PollSettings}

/-- The detail that the response to a request brings, if it brings one. -/
def detail? : Fetched Json → Option SessionDetail
  | .ok response => (SessionDetail.decode response).toOption
  | .error _ => none

/-! ## One event -/

/-- An answer to a request of the latest batch is filed under its session, if that is listed. -/
theorem sessionInfo_answered (events : List (Event Command)) {id : String} (result : Fetched Json)
    (hlisted : id ∈ (shown client settings events).sessions.items) :
    (shown client settings (events ++
        [.followUp (reached (monitor client) settings events).batch (.session id)
          result])).sessionInfo =
      (detail? result).elim (shown client settings events).sessionInfo
        ((shown client settings events).sessionInfo.insert id) := by
  unfold shown at hlisted ⊢
  rw [reached_concat]
  unfold effectAfter
  generalize reached (monitor client) settings events = loop at hlisted ⊢
  cases result with
  | error error =>
      have hlost : (Except.error error : Fetched Json).bind
        ((monitor client).applyFollowUp loop.feed.view (.session id)) = .error error := rfl
      rw [step_unfiled hlost]
      rfl
  | ok response =>
      cases hdecode : SessionDetail.decode response with
      | ok detail =>
          have hfiled : (Except.ok response : Fetched Json).bind
              ((monitor client).applyFollowUp loop.feed.view (.session id)) =
                .ok (loop.feed.view.file id detail, true) := applyFollowUp_listed hlisted hdecode
          rw [step_filed hfiled]
          simp [detail?, hdecode, Except.toOption, View.file]
      | error cause =>
          have hunfiled : (Except.ok response : Fetched Json).bind
              ((monitor client).applyFollowUp loop.feed.view (.session id)) =
                .error (.decode (.session id) cause.message) :=
            applyFollowUp_undecoded hlisted hdecode
          rw [step_unfiled hunfiled]
          simp [detail?, hdecode, Except.toOption]

/-- As long as the batch stays, nothing is filed but answers to its requests. -/
theorem SessionsStep.info_eq {event : Event Command} {requests : List Request}
    {before after : View × Nat} (h : SessionsStep event requests before after)
    (hbatch : after.2 = before.2)
    (hother : ∀ id result, id ∈ before.1.sessions.items →
      event ≠ .followUp before.2 (.session id) result) :
    after.1.sessionInfo = before.1.sessionInfo := by
  cases h with
  | kept sessions info addresses => exact info
  | installed ids sessions info addresses requested => exact absurd hbatch (Nat.succ_ne_self _)
  | filed listed answered decoded => exact absurd answered (hother _ _ listed)

/-- Nothing is known about sessions that have just been installed. -/
theorem SessionsStep.info_empty {event : Event Command} {requests : List Request}
    {before after : View × Nat} (h : SessionsStep event requests before after)
    (hbatch : after.2 ≠ before.2) : after.1.sessionInfo = .empty := by
  cases h with
  | kept sessions info addresses => exact absurd rfl hbatch
  | installed ids sessions info addresses requested => exact info
  | filed listed answered decoded => exact absurd rfl hbatch

/-- The sessions are listed in ascending order. -/
theorem sessions_ascending (events : List (Event Command)) :
    (shown client settings events).sessions.items.Pairwise (· ≤ ·) := by
  have hkeeps : (monitor client).Keeps fun view => view.sessions.items.Pairwise (· ≤ ·) := by
    refine ⟨List.Pairwise.nil, ?_, ?_, ?_⟩
    · intro view payload _
      show (apply view payload).view.sessions.items.Pairwise _
      rw [apply_sessions, ReconciledList.reconcileSorted_items]
      exact ReconciledList.ascending_pairwise payload.sessions
    · intro view endpoint response filed changed h hview
      rcases applyFollowUp_cases h with ⟨rfl, _⟩ | ⟨id, detail, _, _, _, rfl, _⟩
      · exact hview
      · exact hview
    · rintro view ⟨kind, state⟩ hview
      show (view.withStates kind _).sessions.items.Pairwise _
      rw [withStates_sessions]
      exact hview
  unfold shown
  rw [view_history]
  exact hkeeps.viewAfter _

/-! ## The answers to the requests of one list -/

/-- `install` replaced the list of sessions, which has not been replaced since, and each session has
one result: all requests that were issued for the list have been answered, by the results of their
sessions. What else happens meanwhile, and in which order the answers come, is left open. -/
structure AllAnswered (client : String) (settings : PollSettings) (results : String → Fetched Json)
    (before : List (Event Command)) (install : Event Command) (later : List (Event Command))
    (inFlight : List Request) : Prop where
  run : Run (monitor client) settings (before ++ install :: later) inFlight
  replaced : (shown client settings (before ++ [install])).sessions.generation =
    (shown client settings before).sessions.generation + 1
  kept : (shown client settings (before ++ install :: later)).sessions =
    (shown client settings (before ++ [install])).sessions
  answers : ∀ id result,
    Event.followUp (reached (monitor client) settings (before ++ [install])).batch (.session id)
      result ∈ later → result = results id
  complete : ∀ id,
    Request.followUp (reached (monitor client) settings (before ++ [install])).batch (.session id)
      ∉ inFlight

variable {results : String → Fetched Json} {before later : List (Event Command)}
  {install : Event Command} {inFlight : List Request}

/-- The generation of the sessions is the number of the batch, so it does not come back once it was
left, and the batch stays as long as the list. -/
theorem AllAnswered.batch_eq (h : AllAnswered client settings results before install later inFlight)
    {soFar : List (Event Command)} (hstart : soFar <+: later) :
    (reached (monitor client) settings (before ++ install :: soFar)).batch =
      (reached (monitor client) settings (before ++ [install])).batch := by
  obtain ⟨rest, rfl⟩ := hstart
  have hend : (reached (monitor client) settings (before ++ install :: (soFar ++ rest))).batch =
      (reached (monitor client) settings (before ++ [install])).batch := by
    rw [(sessionsSound _).batch, (sessionsSound _).batch, h.kept]
  have hfirst := @batch_mono _ _ _ (monitor client) settings (before ++ [install]) soFar
  have hlast := @batch_mono _ _ _ (monitor client) settings (before ++ install :: soFar) rest
  rw [List.append_assoc, List.singleton_append] at hfirst
  rw [List.append_assoc, List.cons_append, hend] at hlast
  exact Nat.le_antisymm hlast hfirst

theorem AllAnswered.sessions_eq
    (h : AllAnswered client settings results before install later inFlight)
    {soFar : List (Event Command)} (hstart : soFar <+: later) :
    (shown client settings (before ++ install :: soFar)).sessions =
      (shown client settings (before ++ [install])).sessions := by
  have hbatch := h.batch_eq hstart
  rw [← List.singleton_append, ← List.append_assoc] at hbatch ⊢
  exact sessions_eq_of_batch_eq hbatch

theorem AllAnswered.installed
    (h : AllAnswered client settings results before install later inFlight) :
    (reached (monitor client) settings (before ++ [install])).batch ≠
      (reached (monitor client) settings before).batch := by
  rw [(sessionsSound _).batch, (sessionsSound _).batch, h.replaced]
  exact Nat.succ_ne_self _

/-- Each session that is listed has been answered. -/
theorem AllAnswered.answered
    (h : AllAnswered client settings results before install later inFlight) {id : String}
    (hlisted : id ∈ (shown client settings (before ++ [install])).sessions.items) :
    Event.followUp (reached (monitor client) settings (before ++ [install])).batch (.session id)
      (results id) ∈ later := by
  have hissued : Request.followUp (reached (monitor client) settings (before ++ [install])).batch
      (.session id) ∈ (effectAfter (monitor client) settings before install).requests := by
    rw [(sessionsStep_concat before install).requests_eq h.installed]
    exact List.mem_map.mpr ⟨id, hlisted, rfl⟩
  rcases h.run.waiting_or_answered rfl hissued with hwaiting | ⟨result, hmem⟩
  · exact absurd hwaiting (h.complete id)
  · have hresult := h.answers id result hmem
    rwa [hresult] at hmem

/-- What is known of listed sessions once these events came in: nothing but what the results bring,
and that for all that were answered. -/
structure KnownSoFar (results : String → Fetched Json) (batch : Nat) (items : List String)
    (soFar : List (Event Command)) (info : Table SessionDetail) : Prop where
  brought : ∀ id detail, info.find? id = some detail → detail? (results id) = some detail
  answered : ∀ id ∈ items, Event.followUp batch (.session id) (results id) ∈ soFar →
    info.find? id = detail? (results id)

theorem KnownSoFar.kept {batch : Nat} {items : List String} {soFar : List (Event Command)}
    {info : Table SessionDetail} (h : KnownSoFar results batch items soFar info)
    {event : Event Command}
    (hother : ∀ id result, id ∈ items → event ≠ .followUp batch (.session id) result) :
    KnownSoFar results batch items (soFar ++ [event]) info where
  brought := h.brought
  answered := by
    intro id hlisted hmem
    rcases List.mem_append.mp hmem with hold | hnew
    · exact h.answered id hlisted hold
    · exact absurd (List.mem_singleton.mp hnew).symm (hother id _ hlisted)

/-- Filing an answer again, or after others, makes no difference. -/
theorem KnownSoFar.filed {batch : Nat} {items : List String} {soFar : List (Event Command)}
    {info : Table SessionDetail} (h : KnownSoFar results batch items soFar info) (id : String) :
    KnownSoFar results batch items (soFar ++ [.followUp batch (.session id) (results id)])
      ((detail? (results id)).elim info (info.insert id)) := by
  have hfiled : ((detail? (results id)).elim info (info.insert id)).find? id =
      detail? (results id) := by
    cases hdetail : detail? (results id) with
    | some detail =>
        show (info.insert id detail).find? id = _
        rw [Table.find?_insert, if_pos rfl]
    | none =>
        -- what is known already would have been brought by the same result
        cases hknown : info.find? id with
        | none => exact hknown
        | some detail => exact absurd (h.brought id detail hknown) (by simp [hdetail])
  have hothers : ∀ other, other ≠ id →
      ((detail? (results id)).elim info (info.insert id)).find? other = info.find? other := by
    intro other hne
    cases detail? (results id) with
    | none => rfl
    | some detail =>
        show (info.insert id detail).find? other = _
        rw [Table.find?_insert, if_neg hne.symm]
  refine ⟨?_, ?_⟩
  · intro other detail hfind
    by_cases heq : other = id
    · subst heq
      rwa [hfiled] at hfind
    · rw [hothers other heq] at hfind
      exact h.brought other detail hfind
  · intro other hlisted hmem
    by_cases heq : other = id
    · subst heq
      exact hfiled
    · rw [hothers other heq]
      rcases List.mem_append.mp hmem with hold | hnew
      · exact h.answered other hlisted hold
      · have hsame := List.mem_singleton.mp hnew
        exact absurd (Endpoint.session.inj (Event.followUp.inj hsame).2.1) heq

theorem AllAnswered.knownSoFar
    (h : AllAnswered client settings results before install later inFlight)
    {soFar : List (Event Command)} (hstart : soFar <+: later) :
    KnownSoFar results (reached (monitor client) settings (before ++ [install])).batch
      (shown client settings (before ++ [install])).sessions.items soFar
      (shown client settings (before ++ install :: soFar)).sessionInfo := by
  induction soFar using List.reverseRecOn with
  | nil =>
      rw [(sessionsStep_concat before install).info_empty h.installed]
      exact ⟨fun id detail hfind => (nomatch hfind), fun id _ hmem => (nomatch hmem)⟩
  | append_singleton soFar event ih =>
      have hearlier : soFar <+: later := (List.prefix_append soFar [event]).trans hstart
      have hknown := ih hearlier
      have hbatch := h.batch_eq hearlier
      have hnext := h.batch_eq hstart
      rw [← List.cons_append, ← List.append_assoc] at hnext ⊢
      by_cases hanswer : ∃ id result,
          id ∈ (shown client settings (before ++ [install])).sessions.items ∧
          event = .followUp (reached (monitor client) settings (before ++ [install])).batch
            (.session id) result
      · obtain ⟨id, result, hlisted, rfl⟩ := hanswer
        obtain rfl := h.answers id result (hstart.subset (by simp))
        rw [← h.sessions_eq hearlier] at hlisted
        have hinfo := sessionInfo_answered _ (results id) hlisted
        rw [hbatch] at hinfo
        rw [hinfo]
        exact hknown.filed id
      · have hother : ∀ id result,
            id ∈ (shown client settings (before ++ [install])).sessions.items →
            event ≠ .followUp (reached (monitor client) settings (before ++ [install])).batch
              (.session id) result := by
          intro id result hlisted hevent
          exact hanswer ⟨id, result, hlisted, hevent⟩
        have hinfo := (sessionsStep_concat (before ++ install :: soFar) event).info_eq
          (hnext.trans hbatch.symm) (by
            rw [h.sessions_eq hearlier, hbatch]
            exact hother)
        rw [hinfo]
        exact hknown.kept hother

/-! ## Once all have been answered -/

/-- What is known in the end are the details that the results of the listed sessions bring. -/
theorem AllAnswered.find?_eq_some_iff
    (h : AllAnswered client settings results before install later inFlight) {id : String}
    {detail : SessionDetail} :
    (shown client settings (before ++ install :: later)).sessionInfo.find? id = some detail ↔
      id ∈ (shown client settings (before ++ [install])).sessions.items ∧
        detail? (results id) = some detail := by
  have hknown := h.knownSoFar (List.prefix_refl later)
  constructor
  · intro hfind
    have hlisted := ((sessionsSound (before ++ install :: later)).known id detail hfind).1
    rw [h.kept] at hlisted
    exact ⟨hlisted, hknown.brought id detail hfind⟩
  · rintro ⟨hlisted, hdetail⟩
    rw [hknown.answered id hlisted (h.answered hlisted), hdetail]

/-- The details of the sessions listed, each once, in ascending order of the ids. -/
def detailsOf (results : String → Fetched Json) (ids : List String) :
    List (String × SessionDetail) :=
  ids.eraseDups.filterMap fun id => (detail? (results id)).map fun detail => (id, detail)

theorem mem_detailsOf {ids : List String} {id : String} {detail : SessionDetail} :
    (id, detail) ∈ detailsOf results ids ↔ id ∈ ids ∧ detail? (results id) = some detail := by
  unfold detailsOf
  rw [List.mem_filterMap]
  constructor
  · rintro ⟨other, hmem, hdetail⟩
    obtain ⟨found, hfound, heq⟩ := Option.map_eq_some_iff.mp hdetail
    obtain ⟨rfl, rfl⟩ := Prod.mk.inj heq
    exact ⟨List.mem_eraseDups.mp hmem, hfound⟩
  · rintro ⟨hmem, hdetail⟩
    exact ⟨id, List.mem_eraseDups.mpr hmem, by rw [hdetail]; rfl⟩

theorem sorted_detailsOf {ids : List String} (h : ids.Pairwise (· ≤ ·)) :
    Entries.Sorted (detailsOf results ids) := by
  have hle := h.sublist (eraseDups_sublist ids)
  have hlt := (hle.and (listsOnce_eraseDups ids).nodup).imp
    fun hboth => lt_of_le_of_ne hboth.1 hboth.2
  refine List.Pairwise.filterMap _ ?_ hlt
  intro first second hlt entry hentry other hother
  obtain ⟨_, _, rfl⟩ := Option.map_eq_some_iff.mp hentry
  obtain ⟨_, _, rfl⟩ := Option.map_eq_some_iff.mp hother
  exact hlt

theorem AllAnswered.entries_eq
    (h : AllAnswered client settings results before install later inFlight) :
    (shown client settings (before ++ install :: later)).sessionInfo.entries =
      detailsOf results (shown client settings (before ++ [install])).sessions.items := by
  have hsorted := @sorted_detailsOf results _
    (@sessions_ascending client settings (before ++ [install]))
  refine (Table.sorted _).ext hsorted ?_
  intro id
  apply Option.ext
  intro detail
  rw [hsorted.find?_eq_some_iff, mem_detailsOf]
  exact h.find?_eq_some_iff

/-- Whatever the order in which the requests for the listed sessions are answered, and whatever else
happens meanwhile: in the end the details known are those that the results of the listed sessions
bring, each under its session, and the addresses are those of their channels, each once, in the
order in which they occur first when the sessions are read in ascending order. -/
theorem session_details_complete {client : String} {settings : PollSettings}
    {results : String → Fetched Json} {before later : List (Event Command)}
    {install : Event Command} {inFlight : List Request}
    (h : AllAnswered client settings results before install later inFlight) :
    (∀ id detail,
      (shown client settings (before ++ install :: later)).sessionInfo.find? id = some detail ↔
        id ∈ (shown client settings (before ++ [install])).sessions.items ∧
          detail? (results id) = some detail) ∧
    (shown client settings (before ++ [install])).sessions.items.Pairwise (· ≤ ·) ∧
    ListsOnce
      (((detailsOf results (shown client settings (before ++ [install])).sessions.items).flatMap
        fun entry => entry.2.channels).map Channel.address)
      (shown client settings (before ++ install :: later)).addresses ∧
    ∀ {later' : List (Event Command)} {inFlight' : List Request},
      AllAnswered client settings results before install later' inFlight' →
      (shown client settings (before ++ install :: later)).sessionInfo =
          (shown client settings (before ++ install :: later')).sessionInfo ∧
        (shown client settings (before ++ install :: later)).addresses =
          (shown client settings (before ++ install :: later')).addresses := by
  refine ⟨fun id detail => h.find?_eq_some_iff, sessions_ascending _, ?_, ?_⟩
  · have hvalues : (shown client settings (before ++ install :: later)).sessionInfo.values =
        (detailsOf results (shown client settings (before ++ [install])).sessions.items).map
          Prod.snd := congrArg (List.map Prod.snd) h.entries_eq
    have hlists := SessionDetail.listsOnce_addresses
      (shown client settings (before ++ install :: later)).sessionInfo.values
    rw [← (sessionsSound _).addresses, hvalues, List.flatMap_map] at hlists
    exact hlists
  · intro later' inFlight' h'
    have hinfo : (shown client settings (before ++ install :: later)).sessionInfo =
        (shown client settings (before ++ install :: later')).sessionInfo := by
      apply Table.ext_find?
      intro id
      apply Option.ext
      intro detail
      rw [h.find?_eq_some_iff, h'.find?_eq_some_iff]
    refine ⟨hinfo, ?_⟩
    rw [(sessionsSound _).addresses, (sessionsSound _).addresses, hinfo]

/-- Two sessions share an address; what is requested of any other does not arrive. -/
def sharedAddress (id : String) : Fetched Json :=
  if id = "a" then .ok (.obj [("channels", .strings ["y:2", "x:1"])])
  else if id = "b" then .ok (.obj [("channels", .strings ["z:3", "y:2"])])
  else .error (.transport (.session id) "refused")

/-- Three sessions are listed. -/
def threeListed : Event Command :=
  .primary 1 (.ok (.obj [("sessions", .strings ["lost", "b", "a"])]))

/-- The answer to the request for one of them. -/
def answerTo (id : String) : Event Command := .followUp 1 (.session id) (sharedAddress id)

theorem result_of_answerTo {batch : Nat} {id other : String} {result : Fetched Json}
    (h : Event.followUp batch (.session id) result = answerTo other) :
    result = sharedAddress id := by
  obtain ⟨_, hid, hresult⟩ := Event.followUp.inj h
  rw [hresult, Endpoint.session.inj hid]

theorem read_threeListed :
    (monitor "c").read (.ok (.obj [("sessions", .strings ["lost", "b", "a"])])) =
      .ok ⟨false, ["lost", "b", "a"], [], [], []⟩ := by
  decide +kernel

theorem ascending_threeListed :
    ReconciledList.ascending ["lost", "b", "a"] = ["a", "b", "lost"] := by
  rw [@ReconciledList.ascending_congr _ _ _ ["a", "b", "lost"] (by decide)]
  exact List.mergeSort_of_pairwise (by decide)

theorem threeListed_run :
    Run (monitor "c") .standard [.tick, threeListed]
      [.followUp 1 (.session "a"), .followUp 1 (.session "b"), .followUp 1 (.session "lost")] :=
  listing_run read_threeListed ascending_threeListed (by decide)

theorem reached_threeListed (later : List (Event Command)) :
    reached (monitor "c") .standard ([.tick] ++ threeListed :: later) =
      run (monitor "c") .standard (listing "c" .standard ["a", "b", "lost"]) later :=
  reached_listing read_threeListed ascending_threeListed (by decide) later

/-- Any answers to the requests for the three sessions are answers to all, if all are among them. -/
theorem allAnswered_of_answers {later : List (Event Command)} {inFlight : List Request}
    (run : Run (monitor "c") .standard ([.tick] ++ threeListed :: later) inFlight)
    (kept : (PollLoop.run (monitor "c") .standard (listing "c" .standard ["a", "b", "lost"])
      later).feed.view.sessions = ⟨["a", "b", "lost"], 1⟩)
    (answers : ∀ batch id result, Event.followUp batch (.session id) result ∈ later →
      result = sharedAddress id)
    (complete : ∀ batch id, Request.followUp batch (.session id) ∉ inFlight) :
    AllAnswered "c" .standard sharedAddress [.tick] threeListed later inFlight where
  run := run
  replaced := by
    unfold shown
    rw [reached_threeListed]
    decide +kernel
  kept := by
    unfold shown
    rw [reached_threeListed, reached_threeListed, kept]
    decide +kernel
  answers := answers _
  complete := complete _

/-- The answers come in descending order of the sessions, with a tick among them. -/
theorem descending_answered :
    AllAnswered "c" .standard sharedAddress [.tick] threeListed
      [answerTo "lost", answerTo "b", .tick, answerTo "a"] [.primary 2 (.client "c")] := by
  refine allAnswered_of_answers ?_ (by decide +kernel) ?_ (by simp)
  · have hlost := @Run.followUp_answered _ _ _ _ _ _
      [.followUp 1 (.session "a"), .followUp 1 (.session "b")] [] 1 (.session "lost")
      threeListed_run (sharedAddress "lost")
    have hb : Run (monitor "c") .standard
        ([.tick] ++ threeListed :: [answerTo "lost", answerTo "b"]) [.followUp 1 (.session "a")] :=
      @Run.followUp_answered _ _ _ _ _ _ [.followUp 1 (.session "a")] [] 1 (.session "b") hlost
        (sharedAddress "b")
    have hrequests : (effectAfter (monitor "c") .standard
        ([.tick] ++ threeListed :: [answerTo "lost", answerTo "b"]) .tick).requests =
          [.primary 2 (.client "c")] := by
      unfold effectAfter
      rw [reached_threeListed]
      decide +kernel
    have htick := hb.tick
    rw [hrequests] at htick
    exact @Run.followUp_answered _ _ _ _ _ _ [] [.primary 2 (.client "c")] 1 (.session "a") htick
      (sharedAddress "a")
  · intro batch id result hmem
    simp only [List.mem_cons, List.not_mem_nil, or_false, reduceCtorEq, false_or] at hmem
    rcases hmem with hlost | hb | ha
    · exact result_of_answerTo hlost
    · exact result_of_answerTo hb
    · exact result_of_answerTo ha

/-- The answers come in ascending order of the sessions. -/
theorem ascending_answered :
    AllAnswered "c" .standard sharedAddress [.tick] threeListed
      [answerTo "a", answerTo "b", answerTo "lost"] [] := by
  refine allAnswered_of_answers ?_ (by decide +kernel) ?_ (by simp)
  · have ha := @Run.followUp_answered _ _ _ _ _ _ []
      [.followUp 1 (.session "b"), .followUp 1 (.session "lost")] 1 (.session "a")
      threeListed_run (sharedAddress "a")
    have hb := @Run.followUp_answered _ _ _ _ _ _ [] [.followUp 1 (.session "lost")] 1
      (.session "b") ha (sharedAddress "b")
    exact @Run.followUp_answered _ _ _ _ _ _ [] [] 1 (.session "lost") hb (sharedAddress "lost")
  · intro batch id result hmem
    simp only [List.mem_cons, List.not_mem_nil, or_false] at hmem
    rcases hmem with ha | hb | hlost
    · exact result_of_answerTo ha
    · exact result_of_answerTo hb
    · exact result_of_answerTo hlost

/-- Either way the shared address is listed once, where `a` has it. -/
theorem either_order_lists_once :
    AllAnswered "c" .standard sharedAddress [.tick] threeListed
        [answerTo "lost", answerTo "b", .tick, answerTo "a"] [.primary 2 (.client "c")] ∧
      AllAnswered "c" .standard sharedAddress [.tick] threeListed
        [answerTo "a", answerTo "b", answerTo "lost"] [] ∧
      (shown "c" .standard [.tick, threeListed, answerTo "a", answerTo "b",
        answerTo "lost"]).addresses = ["y:2", "x:1", "z:3"] ∧
      (shown "c" .standard [.tick, threeListed, answerTo "lost", answerTo "b", .tick,
        answerTo "a"]).addresses = ["y:2", "x:1", "z:3"] ∧
      (shown "c" .standard [.tick, threeListed, answerTo "lost", answerTo "b", .tick,
        answerTo "a"]).sessionInfo.find? "lost" = none := by
  obtain ⟨hfound, _, _, hsame⟩ := session_details_complete descending_answered
  have haddresses : (shown "c" .standard [.tick, threeListed, answerTo "a", answerTo "b",
      answerTo "lost"]).addresses = ["y:2", "x:1", "z:3"] := by
    refine (congrArg (fun loop => loop.feed.view.addresses) (reached_threeListed _)).trans ?_
    decide +kernel
  refine ⟨descending_answered, ascending_answered, haddresses, ?_, ?_⟩
  · exact (hsame ascending_answered).2.trans haddresses
  · rw [Option.eq_none_iff_forall_ne_some]
    intro detail hfind
    have hbrought := ((hfound "lost" detail).mp hfind).2
    exact absurd hbrought (by simp [sharedAddress, detail?])

end NfsWatch.ClientSummary
