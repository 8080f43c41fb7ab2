import NfsWatch.Monitor.OperationTable
import NfsWatch.Monitor.StateSummary
import NfsWatch.Proofs.Monitor.ClientPick
import NfsWatch.Proofs.Monitor.StatePicks
import NfsWatch.Proofs.Reconcile.Repeated

/-!
# Polls that bring the same again

A feed that keeps sending the same goes quiet: nothing changes, nothing is reported and nothing is
requested. Four of the monitors are quiet from the second poll on. The summary of a client may need
the second poll to replace picks that the first one cleared, and is quiet from the third on
(`ClientSummary.quiet_third`). Lists of ids may come in another order each time.
-/

namespace NfsWatch

open ReconciledList

namespace Monitor

variable {P V C : Type}

/-- The payload changes nothing, and nothing is reported or requested. -/
def Quiet (monitor : Monitor P V C) (view : V) (payload : P) : Prop :=
  monitor.apply view payload = ⟨view, false, none⟩

/-- Whatever came before, a payload is quiet right after one that is the same. -/
def QuietOnRepeat (monitor : Monitor P V C) (Same : P → P → Prop) : Prop :=
  ∀ history first second, Same first second →
    monitor.Quiet (monitor.apply (monitor.viewAfter history) first).view second

end Monitor

/-! ## Monitors that are quiet at once -/

namespace ClientList

theorem apply_perm {first second : List String} (h : first.Perm second) (view : View) :
    apply view first = apply view second := by
  unfold apply
  rw [reconcileSorted_perm h]

theorem apply_settled {view : View} {ids : List String}
    (hids : view.clients.items = ascending ids)
    (hpick : view.selection.Settled (ascending ids)) : apply view ids = ⟨view, false, none⟩ := by
  have hkept : view.selection.reconcile (ascending ids) = (view.selection, false) := hpick
  unfold apply
  rw [reconcileSorted_same hids]
  dsimp only
  rw [hids, hkept]
  rfl

theorem quietOnRepeat : monitor.QuietOnRepeat List.Perm := by
  intro history first second hsame
  show apply (apply (monitor.viewAfter history) first).view second = _
  rw [← apply_perm hsame]
  refine apply_settled (reconcileSorted_items ..) ?_
  rw [apply_picks]
  rcases Selection.reconcile_settles (monitor.viewAfter history).selection (ascending first) with
    hsettled | ⟨hnext, _⟩
  · exact hsettled
  · exact nomatch hnext.symm.trans (sound history).immediate

end ClientList

theorem StateSummary.quietOnRepeat (client state : String) :
    (monitor client state).QuietOnRepeat Eq := by
  rintro history detail _ rfl
  show apply (apply _ detail).view detail = ⟨(apply _ detail).view, false, none⟩
  simp [apply]

theorem FilesystemStatus.quietOnRepeat (policy : HiddenPolicy) :
    (monitor policy).QuietOnRepeat Eq := by
  rintro history snapshot _ rfl
  show apply policy (apply policy _ snapshot).view snapshot = _
  simp only [apply, FsStats.patch_again, Section.apply_again]
  rfl

theorem OperationTable.quietOnRepeat (family : ProtocolFamily) :
    (monitor family).QuietOnRepeat Eq := by
  rintro history counters _ rfl
  show apply (apply _ counters).view counters = _
  simp only [apply, reconcileKeyed_again]
  rfl

/-! ## One client -/

/-- The same client but for the order of its ids. -/
structure ClientDetail.Reordered (first second : ClientDetail) : Prop where
  confirmed : first.confirmed = second.confirmed
  sessions : first.sessions.Perm second.sessions
  states : ∀ kind, (first.states kind).Perm (second.states kind)

namespace ClientSummary

theorem StateList.apply_perm {first second : List String} (h : first.Perm second)
    (states : StateList) : states.apply first = states.apply second := by
  unfold StateList.apply
  rw [reconcileSorted_perm h]

theorem apply_reordered {first second : ClientDetail} (h : first.Reordered second) (view : View) :
    apply view first = apply view second := by
  have hopens : first.opens.Perm second.opens := h.states .opens
  have hdelegations : first.delegations.Perm second.delegations := h.states .delegations
  have hlayouts : first.layouts.Perm second.layouts := h.states .layouts
  unfold apply
  rw [reconcileSorted_perm h.sessions, h.confirmed, StateList.apply_perm hopens,
    StateList.apply_perm hdelegations, StateList.apply_perm hlayouts]

/-! ### The second poll -/

/-- The poll before cleared the pick, and now the least state is picked; the list is the same. -/
structure StateList.PickedAgain (ids : List String) (before once twice : StateList) : Prop where
  gone : ∃ state, before.selected = some state ∧ state ∉ ids
  cleared : once.selected = none
  listed : twice.ids = once.ids
  picked : twice.selection = { once.selection with selected := ids.min? }

theorem StateList.apply_settled {states : StateList} {ids : List String}
    (hitems : states.ids.items = ascending ids)
    (hpick : states.selection.Settled (ascending ids)) : states.apply ids = (states, false) := by
  have hkept : states.selection.reconcile (ascending ids) = (states.selection, false) := hpick
  unfold StateList.apply
  rw [reconcileSorted_same hitems]
  dsimp only
  rw [hitems, hkept]
  rfl

theorem StateList.apply_again (states : StateList) (ids : List String) :
    ((states.apply ids).1.apply ids).1 = (states.apply ids).1 ∨
      StateList.PickedAgain ids states (states.apply ids).1
        ((states.apply ids).1.apply ids).1 := by
  have hitems := StateList.apply_items states ids
  have hpick := StateList.apply_picks states ids
  generalize (states.apply ids).1 = once at hitems hpick ⊢
  have hsettles := Selection.reconcile_settles states.selection (ascending ids)
  rw [← hpick] at hsettles
  rcases hsettles with hsettled | ⟨_, hcleared, state, hpicked, hgone⟩
  · exact Or.inl (congrArg Prod.fst (StateList.apply_settled hitems hsettled))
  · refine Or.inr ⟨⟨state, hpicked, fun hmem => hgone (mem_ascending.mpr hmem)⟩, hcleared, ?_, ?_⟩
    · rw [apply_ids, reconcileSorted_same hitems]
    · rw [apply_picks, ← head?_ascending]
      unfold Selection.reconcile
      rw [hcleared]

theorem StateList.quiet_third (states : StateList) (ids : List String) :
    ((states.apply ids).1.apply ids).1.apply ids =
      (((states.apply ids).1.apply ids).1, false) := by
  refine StateList.apply_settled (StateList.apply_items ..) ?_
  rw [apply_picks, apply_picks]
  exact Selection.reconcile_again_settles ..

/-- All that the second of two polls may do: pick states again where the first one cleared the
pick. -/
structure OnlyPicksAgain (payload : ClientDetail) (before once : View) (twice : Applied View) :
    Prop where
  clientId : twice.view.clientId = once.clientId
  confirmed : twice.view.confirmed = once.confirmed
  sessions : twice.view.sessions = once.sessions
  sessionInfo : twice.view.sessionInfo = once.sessionInfo
  addresses : twice.view.addresses = once.addresses
  states : ∀ kind, twice.view.states kind = once.states kind ∨
    StateList.PickedAgain (payload.states kind) (before.states kind) (once.states kind)
      (twice.view.states kind)
  followUps : twice.followUps = none

theorem onlyPicksAgain (view : View) (payload : ClientDetail) :
    OnlyPicksAgain payload view (apply view payload).view
      (apply (apply view payload).view payload) := by
  have hsessions : (apply view payload).view.sessions.items = ascending payload.sessions := by
    rw [apply_sessions, reconcileSorted_items]
  obtain ⟨hinfo, haddresses, hrequests⟩ := apply_same hsessions
  refine ⟨?_, ?_, ?_, hinfo, haddresses, ?_, hrequests⟩
  · rw [apply_clientId]
  · rw [apply_confirmed, apply_confirmed]
  · rw [apply_sessions, reconcileSorted_same hsessions]
  · intro kind
    rw [apply_states, apply_states]
    exact StateList.apply_again ..

/-! ### The third poll -/

theorem apply_settled {view : View} {payload : ClientDetail}
    (hsessions : view.sessions.items = ascending payload.sessions)
    (hconfirmed : view.confirmed = payload.confirmed)
    (hstates : ∀ kind, (view.states kind).apply (payload.states kind) =
      (view.states kind, false)) : apply view payload = ⟨view, false, none⟩ := by
  have hopens : view.opens.apply payload.opens = (view.opens, false) := hstates .opens
  have hdelegations : view.delegations.apply payload.delegations = (view.delegations, false) :=
    hstates .delegations
  have hlayouts : view.layouts.apply payload.layouts = (view.layouts, false) := hstates .layouts
  unfold apply
  rw [reconcileSorted_same hsessions, hopens, hdelegations, hlayouts, ← hconfirmed]
  simp [Outcome.changed]

theorem quiet_third (client : String) (view : View) (payload : ClientDetail) :
    (monitor client).Quiet (apply (apply view payload).view payload).view payload := by
  refine apply_settled ?_ ?_ fun kind => ?_
  · rw [apply_sessions, reconcileSorted_items]
  · rw [apply_confirmed]
  · rw [apply_states, apply_states]
    exact StateList.quiet_third ..

/-- From the third poll on that lists the same, in whatever order each time, all is quiet. -/
theorem quiet_after_two (client : String) (view : View) {polls : List ClientDetail}
    {payload : ClientDetail} (hlong : 2 ≤ polls.length)
    (hsame : ∀ poll ∈ polls, poll.Reordered payload) :
    (monitor client).Quiet ((monitor client).polled view polls) payload := by
  rcases List.eq_nil_or_concat polls with rfl | ⟨most, second, rfl⟩
  · exact absurd hlong (by simp)
  rcases List.eq_nil_or_concat most with rfl | ⟨earlier, first, rfl⟩
  · exact absurd hlong (by simp)
  have hfirst : first.Reordered payload := hsame first (by simp)
  have hsecond : second.Reordered payload := hsame second (by simp)
  rw [List.concat_eq_append, List.concat_eq_append, Monitor.polled_concat, Monitor.polled_concat]
  show (monitor client).Quiet (apply (apply _ first).view second).view payload
  rw [apply_reordered hfirst, apply_reordered hsecond]
  exact quiet_third ..

/-- What becomes of polls after a history that list the same, in whatever order each time: the
second one may pick states again, and from the third one on all is quiet. -/
structure QuietFromThird (client : String) (history : List (Contribution ClientDetail Command))
    (payload : ClientDetail) : Prop where
  second : ∀ first : ClientDetail, first.Reordered payload →
    OnlyPicksAgain payload ((monitor client).viewAfter history)
      (apply ((monitor client).viewAfter history) first).view
      (apply (apply ((monitor client).viewAfter history) first).view payload)
  later : ∀ polls : List ClientDetail, 2 ≤ polls.length →
    (∀ poll ∈ polls, poll.Reordered payload) →
    (monitor client).Quiet ((monitor client).polled ((monitor client).viewAfter history) polls)
      payload

theorem quietFromThird (client : String) (history : List (Contribution ClientDetail Command))
    (payload : ClientDetail) : QuietFromThird client history payload where
  second := by
    intro first hsame
    rw [apply_reordered hsame]
    exact onlyPicksAgain ..
  later := by
    intro polls hlong hsame
    exact quiet_after_two client _ hlong hsame

end ClientSummary

/-! ## Identical polls -/

/-- Polls that list the same as the ones before are quiet: in the summary of a client from the third
one on, in the other four monitors from the second one on. -/
theorem identical_polls_go_quiet :
    ClientList.monitor.QuietOnRepeat List.Perm ∧
      (∀ client state, (StateSummary.monitor client state).QuietOnRepeat Eq) ∧
      (∀ policy, (FilesystemStatus.monitor policy).QuietOnRepeat Eq) ∧
      (∀ family, (OperationTable.monitor family).QuietOnRepeat Eq) ∧
      ∀ client history payload, ClientSummary.QuietFromThird client history payload :=
  ⟨ClientList.quietOnRepeat, StateSummary.quietOnRepeat, FilesystemStatus.quietOnRepeat,
    OperationTable.quietOnRepeat, ClientSummary.quietFromThird⟩

/-- The first of these polls clears a pick, the second one picks another state, the third one is
quiet. The client list is quiet at once, the ids in another order. -/
theorem cleared_pick_settles_at_third_poll :
    let sent (opens : List String) : ClientDetail := ⟨true, ["s"], opens, [], []⟩
    let history : List (Contribution ClientDetail ClientSummary.Command) :=
      [.payload 1 (sent ["o2", "o1"]), .command (.select .opens "o2")]
    let view := (ClientSummary.monitor "c").viewAfter history
    let once := (ClientSummary.apply view (sent ["o3", "o1"])).view
    let twice := (ClientSummary.apply once (sent ["o1", "o3"])).view
    (once.states .opens).selected = none ∧
      (twice.states .opens).selected = some "o1" ∧
      twice.sessions = once.sessions ∧
      (ClientSummary.monitor "c").Quiet twice (sent ["o1", "o3"]) ∧
      ClientList.monitor.Quiet
        (ClientList.apply (ClientList.monitor.viewAfter [.payload 1 ["a"]]) ["c", "b"]).view
        ["b", "c"] := by
  intro sent history view once twice
  obtain ⟨hclients, _, _, _, hsummary⟩ := identical_polls_go_quiet
  have hreordered : (sent ["o3", "o1"]).Reordered (sent ["o1", "o3"]) := by
    refine ⟨rfl, .refl _, ?_⟩
    rintro (_ | _ | _)
    · exact .swap ..
    · exact .nil
    · exact .nil
  have hsame : ∀ poll ∈ [sent ["o3", "o1"], sent ["o1", "o3"]],
      poll.Reordered (sent ["o1", "o3"]) := by
    intro poll hpoll
    rcases List.mem_pair.mp hpoll with rfl | rfl
    · exact hreordered
    · exact ⟨rfl, .refl _, fun _ => .refl _⟩
  obtain ⟨hsecond, hthird⟩ := hsummary "c" history (sent ["o1", "o3"])
  have hbefore : (ClientSummary.statesAfter "c" history .opens).selected = some "o2" := by
    have hitems := @ClientSummary.items_payload "c" .opens [] 1 (sent ["o2", "o1"])
    exact ClientSummary.StateList.select_picks (hitems ▸ mem_ascending.mpr (by decide))
  have hcleared : (ClientSummary.statesAfter "c" (history ++ [.payload 2 (sent ["o3", "o1"])])
      .opens).selected = none := ClientSummary.next_lost hbefore (by decide) 2
  have hleast : ["o1", "o3"].min? = some "o1" := by decide +kernel
  have hpicked : (twice.states .opens).selected = some "o1" :=
    (ClientSummary.next_first hcleared 3 (sent ["o1", "o3"])).trans hleast
  refine ⟨hcleared, hpicked, (hsecond _ hreordered).sessions, ?_, ?_⟩
  · exact hthird [sent ["o3", "o1"], sent ["o1", "o3"]] (by decide) hsame
  · exact hclients _ ["c", "b"] ["b", "c"] (.swap ..)

end NfsWatch
