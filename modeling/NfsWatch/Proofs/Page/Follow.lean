import NfsWatch.Proofs.Page.Announced
import NfsWatch.Proofs.Page.Run

/-!
# The clients page follows what is picked

A pick that moves is announced, and what is announced stays unseen until the page takes note of it
and points its scopes anew. So as long as nothing of the client list and of the summary is unseen,
each scope shows what is picked, however the loops went on meanwhile. `Follows` is that invariant,
and `clients_page_follows` what can be read off it.
-/

namespace NfsWatch

/-! ## Loops and their targets -/

/-- The loop is a summary of the client. -/
structure ClientSummary.Serves (client : String)
    (live : LiveLoop ClientDetail ClientSummary.View ClientSummary.Command) : Prop where
  runs : live.Runs (ClientSummary.monitor client)
  clientId_eq : live.view.clientId = client

/-- The loop is a detail of the state. -/
structure StateSummary.Serves (target : String × String)
    (live : LiveLoop StateDetail StateSummary.View Empty) : Prop where
  runs : live.Runs (StateSummary.monitor target.1 target.2)
  ids_eq : live.view.ids = target

theorem ClientSummary.Serves.moves {client : String}
    {live after : LiveLoop ClientDetail ClientSummary.View ClientSummary.Command}
    (h : Serves client live) (hmoves : live.Moves after) : Serves client after :=
  ⟨h.runs.moves hmoves, (h.runs.fixed (fixed_clientId client) hmoves).trans h.clientId_eq⟩

theorem StateSummary.Serves.moves {target : String × String}
    {live after : LiveLoop StateDetail StateSummary.View Empty}
    (h : Serves target live) (hmoves : live.Moves after) : Serves target after :=
  ⟨h.runs.moves hmoves, (h.runs.fixed (fixed_ids target.1 target.2) hmoves).trans h.ids_eq⟩

namespace ClientsPage

/-! ## Parts of the page -/

section withState

variable (page : ClientsPage) (kind : StateKind) (scope : StateSummary.Scoped)

@[simp] theorem withState_clients : (page.withState kind scope).clients = page.clients := by
  cases kind <;> rfl

@[simp] theorem withState_summary : (page.withState kind scope).summary = page.summary := by
  cases kind <;> rfl

theorem state_withState (other : StateKind) :
    (page.withState kind scope).state other = if other = kind then scope else page.state other := by
  cases kind <;> cases other <;> rfl

@[simp] theorem withState_self : page.withState kind (page.state kind) = page := by
  cases kind <;> rfl

end withState

/-- What a detail should show is the state picked in the summary. -/
theorem stateTarget_eq (page : ClientsPage) (kind : StateKind) :
    page.stateTarget kind = page.summary.live.bind fun live => live.view.picked kind := rfl

/-! ## The invariant -/

/-- The loops of the page serve their targets. -/
structure Orderly (page : ClientsPage) : Prop where
  clients : page.clients.Runs ClientList.monitor
  summary : page.summary.Holds ClientSummary.Serves
  state : ∀ kind, (page.state kind).Holds StateSummary.Serves

/-- The summary shows the client picked, unless there is something unseen of the client list. -/
def SummaryFollows (page : ClientsPage) : Prop :=
  page.clients.Settled ClientList.View.selected page.summary.target

/-- The detail of one kind belongs to the client of the summary, and shows the state picked there
unless there is something unseen of the summary. -/
structure StateFollows (page : ClientsPage) (kind : StateKind) : Prop where
  nested : ∀ {client state}, (page.state kind).target = some (client, state) →
    page.summary.target = some client
  settled : page.summary.Holds fun _ live =>
    live.Settled (ClientSummary.View.picked kind) (page.state kind).target

/-- The scopes of the page follow, but for the details of some kinds that have yet to be pointed
anew. -/
structure Follows (stale : List StateKind) (page : ClientsPage) : Prop where
  orderly : page.Orderly
  summary : page.SummaryFollows
  state : ∀ kind, kind ∉ stale → page.StateFollows kind

/-! ## Loops move -/

variable {page after : ClientsPage}

theorem Orderly.moves (h : page.Orderly) (hmoves : LoopMoves page after) : after.Orderly := by
  cases hmoves with
  | clients hmoves => exact ⟨h.clients.moves hmoves, h.summary, h.state⟩
  | summary hmoves =>
      exact ⟨h.clients, h.summary.moves ClientSummary.Serves.moves hmoves, h.state⟩
  | state kind hmoves =>
      refine ⟨?_, ?_, ?_⟩
      · rw [withState_clients]
        exact h.clients
      · rw [withState_summary]
        exact h.summary
      · intro other
        rw [state_withState]
        split
        · exact (h.state kind).moves StateSummary.Serves.moves hmoves
        · exact h.state other

theorem SummaryFollows.moves (h : page.SummaryFollows) (horderly : page.Orderly)
    (hmoves : LoopMoves page after) : after.SummaryFollows := by
  cases hmoves with
  | clients hmoves =>
      exact LiveLoop.Settled.moves h horderly.clients ClientList.announces_selected hmoves
  | summary hmoves =>
      unfold SummaryFollows
      rw [hmoves.target_eq]
      exact h
  | state kind hmoves =>
      unfold SummaryFollows
      rw [withState_clients, withState_summary]
      exact h

theorem StateFollows.moves {kind : StateKind} (h : page.StateFollows kind)
    (horderly : page.Orderly) (hmoves : LoopMoves page after) : after.StateFollows kind := by
  cases hmoves with
  | clients hmoves => exact ⟨h.nested, h.settled⟩
  | summary hmoves =>
      refine ⟨?_, ?_⟩
      · intro client state htarget
        rw [hmoves.target_eq]
        exact h.nested htarget
      · cases hmoves with
        | @loop client live next hcurrent hmoves =>
            intro key live hafter
            cases hafter
            exact (h.settled _ _ hcurrent).moves (horderly.summary _ _ hcurrent).runs
              (ClientSummary.announces_picked client kind) hmoves
  | @state other next hmoves =>
      -- a detail moves without its target, be it of this kind or of another one
      have htarget : ((page.withState other next).state kind).target =
          (page.state kind).target := by
        rw [state_withState]
        split
        · rename_i heq
          rw [hmoves.target_eq, heq]
        · rfl
      refine ⟨?_, ?_⟩
      · intro client state hstate
        rw [withState_summary]
        exact h.nested (htarget ▸ hstate)
      · rw [withState_summary, htarget]
        exact h.settled

theorem Follows.moves {stale : List StateKind} (h : page.Follows stale)
    (hmoves : LoopMoves page after) : after.Follows stale := by
  refine ⟨h.orderly.moves hmoves, h.summary.moves h.orderly hmoves, ?_⟩
  intro kind hkind
  exact (h.state kind hkind).moves h.orderly hmoves

theorem Orderly.waits (h : page.Orderly) (hwaits : Waits page after) : after.Orderly := by
  induction hwaits with
  | refl => exact h
  | tail _ hmoves ih => exact ih.moves hmoves

theorem Follows.waits {stale : List StateKind} (h : page.Follows stale)
    (hwaits : Waits page after) : after.Follows stale := by
  induction hwaits with
  | refl => exact h
  | tail _ hmoves ih => exact ih.moves hmoves

/-! ## The page points its scopes -/

theorem Orderly.syncSummary (h : page.Orderly) : page.syncSummary.1.Orderly where
  clients := h.clients
  summary := h.summary.retarget _ fun client =>
    ⟨LiveLoop.runs_spawn (ClientSummary.monitor client) page.settings, rfl⟩
  state := h.state

theorem Orderly.withState (h : page.Orderly) (kind : StateKind) {scope : StateSummary.Scoped}
    (hscope : scope.Holds StateSummary.Serves) : (page.withState kind scope).Orderly where
  clients := by
    rw [withState_clients]
    exact h.clients
  summary := by
    rw [withState_summary]
    exact h.summary
  state := by
    intro other
    rw [state_withState]
    split
    · exact hscope
    · exact h.state other

theorem Orderly.syncState (h : page.Orderly) (kind : StateKind) :
    (page.syncState kind).1.Orderly := by
  refine h.withState kind ((h.state kind).retarget _ ?_)
  intro target
  exact ⟨LiveLoop.runs_spawn (StateSummary.monitor target.1 target.2) page.settings, rfl⟩

/-- The look at the client list makes the summary follow, whatever it showed. -/
theorem summaryFollows_syncSummary (page : ClientsPage) : page.syncSummary.1.SummaryFollows := by
  intro _
  exact (Scope.retarget_target ..).symm

theorem SummaryFollows.syncState (h : page.SummaryFollows) (kind : StateKind) :
    (page.syncState kind).1.SummaryFollows := by
  unfold SummaryFollows ClientsPage.syncState
  rw [withState_clients, withState_summary]
  exact h

theorem syncState_target (page : ClientsPage) (kind : StateKind) :
    ((page.syncState kind).1.state kind).target = page.stateTarget kind := by
  unfold syncState
  rw [state_withState, if_pos rfl]
  exact Scope.retarget_target ..

theorem syncState_summary (page : ClientsPage) (kind : StateKind) :
    (page.syncState kind).1.summary = page.summary := withState_summary ..

/-- The look at the summary makes the detail follow, whatever it showed. -/
theorem stateFollows_syncState (horderly : page.Orderly) (kind : StateKind) :
    (page.syncState kind).1.StateFollows kind where
  nested := by
    intro client state htarget
    rw [syncState_target, stateTarget_eq] at htarget
    rw [syncState_summary]
    obtain ⟨live, hlive, hpicked⟩ := Option.bind_eq_some_iff.mp htarget
    obtain ⟨⟨key, _⟩, hcurrent, rfl⟩ := Option.map_eq_some_iff.mp hlive
    obtain ⟨picked, _, heq⟩ := Option.map_eq_some_iff.mp hpicked
    obtain ⟨rfl, rfl⟩ := Prod.mk.inj heq
    rw [(horderly.summary _ _ hcurrent).clientId_eq]
    simp [Scope.target, hcurrent]
  settled := by
    intro key live hcurrent _
    rw [syncState_summary] at hcurrent
    rw [syncState_target, stateTarget_eq]
    simp [Scope.live, hcurrent]

theorem StateFollows.syncState {kind : StateKind} (h : page.StateFollows kind) {other : StateKind}
    (hother : kind ≠ other) : (page.syncState other).1.StateFollows kind := by
  have hstate : (page.syncState other).1.state kind = page.state kind := by
    unfold ClientsPage.syncState
    rw [state_withState, if_neg hother]
  refine ⟨?_, ?_⟩
  · intro client state htarget
    rw [syncState_summary]
    exact h.nested (hstate ▸ htarget)
  · rw [syncState_summary, hstate]
    exact h.settled

theorem Follows.syncState {kind : StateKind} {kinds : List StateKind}
    (h : page.Follows (kind :: kinds)) : (page.syncState kind).1.Follows kinds := by
  refine ⟨h.orderly.syncState kind, h.summary.syncState kind, ?_⟩
  intro other hother
  by_cases heq : other = kind
  · subst heq
    exact stateFollows_syncState h.orderly other
  · exact (h.state other (by simp [heq, hother])).syncState heq

theorem SweepsStates.follows {kinds : List StateKind} (h : SweepsStates kinds page after)
    (hpage : page.Follows kinds) : after.Follows [] := by
  induction h with
  | done page => exact hpage
  | next hwaits _ ih => exact ih (hpage.waits hwaits).syncState

/-- After a sweep all scopes follow, whatever they showed before. -/
theorem Sweeps.follows (h : Sweeps page after) (hpage : page.Orderly) : after.Follows [] := by
  obtain ⟨waited, hwaits, hsweeps⟩ := h
  have horderly := hpage.waits hwaits
  -- once the summary was looked after, the details of all kinds are stale
  refine hsweeps.follows ⟨horderly.syncSummary, summaryFollows_syncSummary waited, ?_⟩
  intro kind hkind
  cases kind <;> exact absurd hkind (by decide)

/-! ## The page takes note -/

theorem state_acknowledge (page : ClientsPage) (kind other : StateKind) :
    (page.acknowledge (.state kind)).state other =
      if other = kind then (page.state kind).acknowledge else page.state other :=
  state_withState ..

theorem Orderly.acknowledge (h : page.Orderly) (change : ClientsChange) :
    (page.acknowledge change).Orderly := by
  cases change with
  | clients => exact ⟨h.clients.acknowledge, h.summary, h.state⟩
  | summary =>
      refine ⟨h.clients, h.summary.acknowledge ?_, h.state⟩
      intro client live hserves
      exact ⟨hserves.runs.acknowledge, hserves.clientId_eq⟩
  | state kind =>
      refine h.withState kind ((h.state kind).acknowledge ?_)
      intro target live hserves
      exact ⟨hserves.runs.acknowledge, hserves.ids_eq⟩

/-- Taking note of a detail moves nothing. -/
theorem Follows.acknowledge_state {stale : List StateKind} (h : page.Follows stale)
    (kind : StateKind) : (page.acknowledge (.state kind)).Follows stale := by
  have htarget : ∀ other, ((page.acknowledge (.state kind)).state other).target =
      (page.state other).target := by
    intro other
    rw [state_acknowledge]
    split
    · rename_i heq
      rw [heq, Scope.acknowledge_target]
    · rfl
  have hsummary : (page.acknowledge (.state kind)).summary = page.summary := withState_summary ..
  refine ⟨h.orderly.acknowledge _, ?_, ?_⟩
  · unfold SummaryFollows
    rw [hsummary]
    show LiveLoop.Settled _ _ (page.withState kind _).clients
    rw [withState_clients]
    exact h.summary
  · intro other hother
    refine ⟨?_, ?_⟩
    · intro client state hstate
      rw [hsummary]
      exact (h.state other hother).nested (htarget other ▸ hstate)
    · rw [hsummary, htarget]
      exact (h.state other hother).settled

/-! ## Every run -/

theorem follows_start (settings : PollSettings) : (start settings).Follows [] where
  orderly := by
    refine ⟨LiveLoop.runs_spawn _ _, ?_, ?_⟩
    · intro client live hcurrent
      exact nomatch hcurrent
    · intro kind target live hcurrent
      cases kind <;> exact nomatch hcurrent
  summary := fun _ => rfl
  state := by
    intro kind _
    refine ⟨?_, ?_⟩
    · intro client state htarget
      cases kind <;> exact nomatch htarget
    · intro client live hcurrent
      exact nomatch hcurrent

theorem Follows.step (h : page.Follows []) (hstep : Step page after) : after.Follows [] := by
  cases hstep with
  | moves hmoves => exact h.moves hmoves
  | selectClient client => exact h.waits (waits_selectClient page client)
  | selectState kind state => exact h.waits (waits_selectState page kind state)
  | follows _ _ hsweeps => exact hsweeps.follows (h.orderly.acknowledge _)
  | notes _ => exact h.acknowledge_state _
  | givesUp => exact h
  | sweeps hsweeps => exact hsweeps.follows h.orderly

theorem Reachable.follows {settings : PollSettings} (h : Reachable settings page) :
    page.Follows [] := by
  induction h with
  | start => exact follows_start settings
  | step _ hstep ih => exact ih.step hstep

/-! ## Rounds of notes -/

theorem mem_pending (page : ClientsPage) (change : ClientsChange) :
    change ∈ page.pending ↔ match change with
      | .clients => page.clients.hasUnseen = true
      | .summary => page.summary.hasUnseen = true
      | .state kind => (page.state kind).hasUnseen = true := by
  cases change with
  | clients => simp [pending]
  | summary => simp [pending]
  | state kind => cases kind <;> simp [pending, StateKind.all]

/-- Taking note of nothing changes nothing. -/
theorem Orderly.acknowledge_same (h : page.Orderly) {change : ClientsChange}
    (hnone : change ∉ page.pending) : page.acknowledge change = page := by
  rw [mem_pending] at hnone
  cases change with
  | clients =>
      have hsame : page.clients.acknowledge = page.clients :=
        h.clients.acknowledge_same (Bool.eq_false_iff.mpr hnone)
      show { page with clients := page.clients.acknowledge } = page
      rw [hsame]
  | summary =>
      have hsame : page.summary.acknowledge = page.summary :=
        h.summary.acknowledge_same (fun hserves => hserves.runs) (Bool.eq_false_iff.mpr hnone)
      show { page with summary := page.summary.acknowledge } = page
      rw [hsame]
  | state kind =>
      have hsame : (page.state kind).acknowledge = page.state kind :=
        (h.state kind).acknowledge_same (fun hserves => hserves.runs) (Bool.eq_false_iff.mpr hnone)
      show page.withState kind (page.state kind).acknowledge = page
      rw [hsame, withState_self]

/-- The page may do what it does about a notification also if it has taken note of it by then. -/
theorem Reachable.react {settings : PollSettings} (h : Reachable settings page)
    (change : ClientsChange) : Reachable settings (page.react change).1 := by
  by_cases hpending : change ∈ page.pending
  · exact h.step (step_react hpending)
  · have hsame := h.follows.orderly.acknowledge_same hpending
    have hsync : Reachable settings page.sync.1 := h.step (.sweeps (sweeps_sync page))
    unfold ClientsPage.react
    rw [hsame]
    cases change with
    | clients => exact hsync
    | summary => exact hsync
    | state kind => exact h

theorem Reachable.reactAll {settings : PollSettings} (h : Reachable settings page) :
    Reachable settings page.reactAll.1 := by
  unfold ClientsPage.reactAll
  refine List.foldlRecOn
    (motive := fun acting : ClientsPage × List LogEntry => Reachable settings acting.1) _ _ h ?_
  intro acting hacting change _
  exact hacting.react change

/-! ## Pointing the scopes twice -/

theorem syncSummary_same (h : page.summary.target = page.selectedClient) :
    page.syncSummary = (page, []) := by
  unfold syncSummary
  simp only [Scope.retarget_same h, Bool.false_eq_true, if_false]

theorem syncState_same {kind : StateKind} (h : (page.state kind).target = page.stateTarget kind) :
    page.syncState kind = (page, []) := by
  unfold syncState
  simp only [Scope.retarget_same h, withState_self, Bool.false_eq_true, if_false]

/-- A page whose scopes are on their targets stays as it is. -/
theorem sync_same (hsummary : page.summary.target = page.selectedClient)
    (hstate : ∀ kind, (page.state kind).target = page.stateTarget kind) :
    page.sync = (page, []) := by
  unfold sync
  rw [syncSummary_same hsummary]
  simp [StateKind.all, syncState_same (hstate _)]

@[simp] theorem syncState_stateTarget (page : ClientsPage) (kind other : StateKind) :
    (page.syncState kind).1.stateTarget other = page.stateTarget other := by
  rw [stateTarget_eq, stateTarget_eq, syncState_summary]

@[simp] theorem syncState_state_target (page : ClientsPage) (kind other : StateKind) :
    ((page.syncState kind).1.state other).target =
      if other = kind then page.stateTarget kind else (page.state other).target := by
  split
  · rename_i heq
    rw [heq, syncState_target]
  · rename_i hne
    unfold syncState
    rw [state_withState, if_neg hne]

/-- Pointing the scopes puts them on their targets, so that doing it again does nothing. -/
theorem sync_sync (page : ClientsPage) : page.sync.1.sync = (page.sync.1, []) := by
  have hsync : page.sync.1 = (((page.syncSummary.1.syncState .opens).1.syncState
    .delegations).1.syncState .layouts).1 := rfl
  have hclients : page.sync.1.clients = page.clients := by
    rw [hsync]
    rfl
  have hsummary : page.sync.1.summary = page.syncSummary.1.summary := by
    rw [hsync, syncState_summary, syncState_summary, syncState_summary]
  refine sync_same ?_ ?_
  · unfold selectedClient
    rw [hsummary, hclients]
    exact Scope.retarget_target ..
  · intro kind
    rw [hsync]
    cases kind <;> simp

/-! ## What can be read off -/

theorem Follows.summary_view (h : page.Follows []) :
    ∀ live ∈ page.summary.live, page.summary.target = some live.view.clientId := by
  intro live hlive
  obtain ⟨⟨client, _⟩, hcurrent, rfl⟩ := Option.map_eq_some_iff.mp hlive
  rw [(h.orderly.summary _ _ hcurrent).clientId_eq]
  simp [Scope.target, hcurrent]

theorem Follows.state_view (h : page.Follows []) (kind : StateKind) :
    ∀ live ∈ (page.state kind).live,
      (page.state kind).target = some (live.view.clientId, live.view.stateId) := by
  intro live hlive
  obtain ⟨⟨target, _⟩, hcurrent, rfl⟩ := Option.map_eq_some_iff.mp hlive
  have hids := (h.orderly.state kind _ _ hcurrent).ids_eq
  simp only [StateSummary.View.ids] at hids
  simp [Scope.target, hcurrent, hids]

theorem Follows.summary_target (h : page.Follows []) (hclients : page.clients.hasUnseen = false) :
    page.summary.target = page.selectedClient :=
  (h.summary hclients).symm

theorem Follows.state_target (h : page.Follows []) (hsummary : page.summary.hasUnseen = false)
    (kind : StateKind) : (page.state kind).target = page.stateTarget kind := by
  have hstate := h.state kind List.not_mem_nil
  rw [stateTarget_eq]
  cases hcurrent : page.summary.current with
  | some entry =>
      have hunseen : entry.2.hasUnseen = false := by
        simpa [Scope.hasUnseen, Scope.live, hcurrent] using hsummary
      have hpicked := hstate.settled entry.1 entry.2 hcurrent hunseen
      simpa [Scope.live, hcurrent] using hpicked.symm
  | none =>
      have hnone : (page.state kind).target = none := by
        cases htarget : (page.state kind).target with
        | none => rfl
        | some target =>
            have hnested := hstate.nested htarget
            simp [Scope.target, hcurrent] at hnested
      simpa [Scope.live, hcurrent] using hnone

/-- Whatever happens to the page: its details belong to the client of its summary; a scope has a
loop exactly while it has a target, and shows that target; and while nothing of the client list and
of the summary is unseen, the summary shows the client picked and each detail the state picked.
Pointing the scopes twice in a row starts and stops nothing the second time. What the page does
about one notification or about all of them is among what may happen to it. -/
theorem clients_page_follows {settings : PollSettings} {page : ClientsPage}
    (h : Reachable settings page) :
    (∀ kind client state, (page.state kind).target = some (client, state) →
      page.summary.target = some client) ∧
    ((page.summary.live.isSome = page.summary.target.isSome ∧
        ∀ live ∈ page.summary.live, page.summary.target = some live.view.clientId) ∧
      ∀ kind, (page.state kind).live.isSome = (page.state kind).target.isSome ∧
        ∀ live ∈ (page.state kind).live,
          (page.state kind).target = some (live.view.clientId, live.view.stateId)) ∧
    (page.clients.hasUnseen = false → page.summary.hasUnseen = false →
      page.summary.target = page.clients.view.selected ∧
      ∀ kind, (page.state kind).target = page.summary.live.bind fun live =>
        (live.view.states kind).selected.map fun state => (live.view.clientId, state)) ∧
    page.sync.1.sync = (page.sync.1, []) ∧
    (∀ change, Reachable settings (page.react change).1) ∧
    Reachable settings page.reactAll.1 := by
  have hfollows := h.follows
  have hlive : ∀ {K P V C : Type} (scope : Scope K P V C),
      scope.live.isSome = scope.target.isSome := by
    intro K P V C scope
    simp [Scope.live, Scope.target]
  refine ⟨?_, ⟨⟨hlive _, hfollows.summary_view⟩, ?_⟩, ?_, sync_sync page, h.react, h.reactAll⟩
  · intro kind client state htarget
    exact (hfollows.state kind List.not_mem_nil).nested htarget
  · intro kind
    exact ⟨hlive _, hfollows.state_view kind⟩
  · intro hclients hsummary
    exact ⟨hfollows.summary_target hclients, hfollows.state_target hsummary⟩

/-- A client that is newly picked gets a summary that has not run yet. -/
theorem react_clients_current {page : ClientsPage} {client : String}
    (hpicked : page.selectedClient = some client) (hmoved : page.summary.target ≠ some client) :
    (page.react .clients).1.summary.current =
      some (client, ClientSummary.spawn page.settings client) := by
  have hsummary : (page.react .clients).1.summary =
      (page.summary.retarget page.selectedClient (ClientSummary.spawn page.settings)).1 := rfl
  rw [hsummary, hpicked]
  unfold Scope.retarget
  rw [if_neg hmoved]
  rfl

/-- The page once its first client is listed. -/
def listed : ClientsPage :=
  let page := start .standard
  ({ page with clients := page.clients.polled (.strings ["c"]) }.react .clients).1

/-- The page once the first state of the client is listed. -/
def detailed : ClientsPage :=
  let summary := (ClientSummary.spawn .standard "c").polled (.obj [("opens", .strings ["s"])])
  ({ listed with summary := ⟨some ("c", summary)⟩ }.react .summary).1

theorem detailed_reachable : Reachable .standard detailed := by
  obtain ⟨asked, hasked, hanswered⟩ := (start .standard).clients.moves_polled (.strings ["c"])
    (by decide +kernel)
  have hclients : Reachable .standard
      { start .standard with clients := (start .standard).clients.polled (.strings ["c"]) } :=
    (Reachable.start.step (.moves (.clients hasked))).step (.moves (.clients hanswered))
  have hlisted : Reachable .standard listed :=
    hclients.step (@step_react _ .clients (by decide +kernel))
  have hcurrent : listed.summary.current = some ("c", ClientSummary.spawn .standard "c") :=
    react_clients_current (by decide +kernel) (by decide +kernel)
  obtain ⟨asked, hasked, hanswered⟩ := (ClientSummary.spawn .standard "c").moves_polled
    (.obj [("opens", .strings ["s"])]) (by decide +kernel)
  have hsummary : Reachable .standard { listed with
      summary := ⟨some ("c", (ClientSummary.spawn .standard "c").polled
        (.obj [("opens", .strings ["s"])]))⟩ } :=
    (hlisted.step (.moves (.summary (.loop hcurrent hasked)))).step
      (.moves (.summary (.loop rfl hanswered)))
  exact hsummary.step (@step_react _ .summary (by decide +kernel))

/-- The page shows its first client, and the first state of it. -/
theorem detailed_follows : Reachable .standard detailed ∧
    detailed.clients.hasUnseen = false ∧ detailed.summary.hasUnseen = false ∧
    detailed.summary.target = some "c" ∧ detailed.opens.target = some ("c", "s") ∧
    detailed.sync = (detailed, []) := by
  have hclients : detailed.clients.hasUnseen = false := by decide +kernel
  have hsummary : detailed.summary.hasUnseen = false := by decide +kernel
  obtain ⟨_, _, hquiet, _⟩ := clients_page_follows detailed_reachable
  obtain ⟨hclient, hstate⟩ := hquiet hclients hsummary
  refine ⟨detailed_reachable, hclients, hsummary, ?_, ?_, ?_⟩
  · rw [hclient]
    decide +kernel
  · refine (hstate .opens).trans ?_
    decide +kernel
  · exact sync_same hclient hstate

end ClientsPage

end NfsWatch
