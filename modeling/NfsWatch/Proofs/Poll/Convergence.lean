import NfsWatch.Monitor.ClientList
import NfsWatch.Monitor.FilesystemStatus
import NfsWatch.Monitor.OperationTable
import NfsWatch.Monitor.StateSummary
import NfsWatch.Proofs.Monitor.ClientSummary
import NfsWatch.Proofs.Poll.Contribution

/-!
# Ordered sequencing converges

In ordered mode the payloads are folded into the view in the order of their ticks, and the accepted
tick is the largest one that was answered with something that decodes. Which order the responses
come in therefore does not matter for what only depends on the payload taken last. For each of the
five feeds that is its content proper: all but generations, selections and what follow-ups bring.
-/

namespace NfsWatch

/-- The tick of a completion that decodes. -/
def Event.decodedTick? {P V C : Type} (monitor : Monitor P V C) : Event C → Option Nat
  | .primary number result =>
      match monitor.read result with
      | .ok _ => some number
      | .error _ => none
  | _ => none

namespace PollLoop

variable {P V C : Type} {monitor : Monitor P V C} {settings : PollSettings}

/-- The ticks answered so far with something that decodes, overtaken or not. -/
def decodedTicks (monitor : Monitor P V C) (events : List (Event C)) : List Nat :=
  events.filterMap (Event.decodedTick? monitor)

theorem mem_decodedTicks {events : List (Event C)} {tick : Nat} :
    tick ∈ decodedTicks monitor events ↔
      ∃ result payload, Event.primary tick result ∈ events ∧ monitor.read result = .ok payload := by
  unfold decodedTicks
  rw [List.mem_filterMap]
  constructor
  · rintro ⟨event, hmem, htick⟩
    cases event with
    | primary number result =>
        cases hread : monitor.read result with
        | ok payload =>
            simp only [Event.decodedTick?, hread, Option.some.injEq] at htick
            subst htick
            exact ⟨result, payload, hmem, hread⟩
        | error error => simp [Event.decodedTick?, hread] at htick
    | tick => exact nomatch htick
    | followUp batch endpoint result => exact nomatch htick
    | command command => exact nomatch htick
  · rintro ⟨result, payload, hmem, hread⟩
    exact ⟨_, hmem, by simp [Event.decodedTick?, hread]⟩

theorem decodedTicks_concat (events : List (Event C)) (event : Event C) :
    decodedTicks monitor (events ++ [event]) =
      decodedTicks monitor events ++ (event.decodedTick? monitor).toList := by
  unfold decodedTicks
  rw [List.filterMap_append]
  cases h : event.decodedTick? monitor <;> simp [h]

/-! ## The accepted tick is the largest one -/

/-- While the accepted tick is the largest decoded one, a tick that is not overtaken is larger than
all of these. -/
theorem decoded_lt {loop : PollLoop V} {events : List (Event C)} {older tick : Nat}
    (hmode : loop.sequencer.mode = .ordered)
    (haccepted : loop.sequencer.accepted = (decodedTicks monitor events).max?)
    (hcurrent : loop.sequencer.isSuperseded tick = false)
    (hmem : older ∈ decodedTicks monitor events) : older < tick := by
  obtain ⟨accepted, hmax⟩ := Option.isSome_iff_exists.mp (List.isSome_max?_of_mem hmem)
  have hle : older ≤ accepted := (List.max?_eq_some_iff.mp hmax).2 older hmem
  have hnot : ¬ tick ≤ accepted := by
    intro hover
    have hsuper := (TickSequencer.isSuperseded_ordered hmode tick).mpr
      ⟨accepted, haccepted.trans hmax, hover⟩
    rw [hcurrent] at hsuper
    exact nomatch hsuper
  omega

/-- In ordered mode the accepted tick is the largest that decoded. -/
theorem accepted_eq_max (ordered : settings.sequencing = .ordered) (events : List (Event C)) :
    (reached monitor settings events).sequencer.accepted = (decodedTicks monitor events).max? := by
  induction events using List.reverseRecOn with
  | nil => rfl
  | append_singleton events event ih =>
      have hmode : (reached monitor settings events).sequencer.mode = .ordered := by
        rw [reached_mode, ordered]
      rw [reached_concat]
      unfold effectAfter
      rcases takes_or_not monitor settings (reached monitor settings events) event with
        ⟨⟨_, hkept, _⟩, hdropped⟩ | ⟨number, result, payload, rfl, hread, hcurrent, _, hnew, _⟩
      · rw [hkept, ih, decodedTicks_concat]
        cases htick : event.decodedTick? monitor with
        | none => simp
        | some number =>
            -- a response that decodes and is not taken was overtaken
            obtain ⟨result, payload, hmem, hread⟩ :=
              mem_decodedTicks.mp (List.mem_filterMap.mpr ⟨event, List.mem_singleton_self _, htick⟩)
            have hover := hdropped number result payload (List.mem_singleton.mp hmem).symm hread
            obtain ⟨accepted, haccepted, hle⟩ :=
              (TickSequencer.isSuperseded_ordered hmode number).mp hover
            rw [ih] at haccepted
            obtain ⟨hmem, hall⟩ := List.max?_eq_some_iff.mp haccepted
            rw [haccepted]
            refine (List.max?_eq_some_iff.mpr ⟨List.mem_append_left _ hmem, ?_⟩).symm
            intro other hother
            rcases List.mem_append.mp hother with hold | hfresh
            · exact hall other hold
            · rw [Option.toList_some, List.mem_singleton] at hfresh
              exact hfresh ▸ hle
      · have htick : (Event.primary number result).decodedTick? monitor = some number := by
          simp [Event.decodedTick?, hread]
        rw [hnew, decodedTicks_concat, htick]
        refine (List.max?_eq_some_iff.mpr ⟨by simp, ?_⟩).symm
        intro other hother
        rcases List.mem_append.mp hother with hold | hfresh
        · exact Nat.le_of_lt (decoded_lt hmode ih hcurrent hold)
        · rw [Option.toList_some, List.mem_singleton] at hfresh
          exact Nat.le_of_eq hfresh

/-- In ordered mode the payloads are folded in by increasing ticks. -/
theorem payloads_increasing (ordered : settings.sequencing = .ordered) (events : List (Event C)) :
    ((payloads monitor settings events).map Prod.fst).Pairwise (· < ·) := by
  induction events using List.reverseRecOn with
  | nil => exact List.Pairwise.nil
  | append_singleton events event ih =>
      rw [payloads_concat]
      rcases takes_or_not monitor settings (reached monitor settings events) event with
        ⟨⟨hnone, _⟩, _⟩ | ⟨number, result, payload, _, _, hcurrent, hsome, _⟩
      · rw [hnone]
        simpa using ih
      · rw [hsome, Option.toList_some, List.map_append, List.pairwise_append]
        refine ⟨ih, by simp, ?_⟩
        intro older holder newer hnewer
        rw [List.map_singleton, List.mem_singleton] at hnewer
        subst hnewer
        obtain ⟨taken, htaken, rfl⟩ := List.mem_map.mp holder
        obtain ⟨earlier, hmem, hearlier⟩ := mem_payloads htaken
        have hmode : (reached monitor settings events).sequencer.mode = .ordered := by
          rw [reached_mode, ordered]
        exact decoded_lt hmode (accepted_eq_max ordered events) hcurrent
          (mem_decodedTicks.mpr ⟨earlier, taken.2, hmem, hearlier⟩)

/-! ## What shows the payload taken last -/

/-- A part of the view that shows the payload taken last and nothing else: taking a payload sets it
from the payload alone, and neither responses nor operator input touch it. -/
structure Mirrors {X : Type} (monitor : Monitor P V C) (content : V → X) (shown : P → X) :
    Prop where
  payload : ∀ view payload, content (monitor.apply view payload).view = shown payload
  response : ∀ {view endpoint response filed changed},
    monitor.applyFollowUp view endpoint response = .ok (filed, changed) →
      content filed = content view
  command : ∀ view command, content (monitor.command view command).1 = content view

variable {X : Type} {content : V → X} {shown : P → X}

theorem Mirrors.content_absorb (h : Mirrors monitor content shown) (view : V)
    (contribution : Contribution P C) :
    content (monitor.absorb view contribution) =
      contribution.payload?.elim (content view) (fun taken => shown taken.2) := by
  cases contribution with
  | payload number payload => exact h.payload view payload
  | command command => exact h.command view command
  | response endpoint response => exact Monitor.absorb_response h.response view endpoint response

/-- Such a part is, at any time, what the payload taken last makes it. -/
theorem Mirrors.content_reached (h : Mirrors monitor content shown) (events : List (Event C)) :
    content (reached monitor settings events).feed.view =
      (payloads monitor settings events).getLast?.elim (content monitor.initial)
        (fun taken => shown taken.2) := by
  rw [view_reached]
  unfold payloads
  generalize contributions monitor settings events = folded
  induction folded using List.reverseRecOn with
  | nil => rfl
  | append_singleton folded last ih =>
      rw [List.foldl_append, List.filterMap_append, List.foldl_cons, List.foldl_nil,
        h.content_absorb]
      cases hlast : last.payload? with
      | none => simpa [hlast] using ih
      | some taken => simp [hlast]

/-! ## Convergence -/

/-- The same responses to the same ticks, in whatever order. -/
def SameResponses (first second : List (Event C)) : Prop :=
  ∀ tick result, Event.primary tick result ∈ first ↔ Event.primary tick result ∈ second

theorem SameResponses.mem_decodedTicks {first second : List (Event C)}
    (h : SameResponses first second) (tick : Nat) :
    tick ∈ decodedTicks monitor first ↔ tick ∈ decodedTicks monitor second := by
  rw [PollLoop.mem_decodedTicks, PollLoop.mem_decodedTicks]
  constructor
  · rintro ⟨result, payload, hmem, hread⟩
    exact ⟨result, payload, (h tick result).mp hmem, hread⟩
  · rintro ⟨result, payload, hmem, hread⟩
    exact ⟨result, payload, (h tick result).mpr hmem, hread⟩

/-- The largest tick that decoded does not depend on the order. -/
theorem SameResponses.max_eq {first second : List (Event C)} (h : SameResponses first second) :
    (decodedTicks monitor first).max? = (decodedTicks monitor second).max? := by
  apply Option.ext
  intro tick
  rw [List.max?_eq_some_iff, List.max?_eq_some_iff, h.mem_decodedTicks]
  refine and_congr_right fun _ => ?_
  constructor
  · intro hall other hother
    exact hall other ((h.mem_decodedTicks other).mpr hother)
  · intro hall other hother
    exact hall other ((h.mem_decodedTicks other).mp hother)

/-- Two runs with the same responses end with the same content. -/
def Converges (monitor : Monitor P V C) (settings : PollSettings) (content : V → X) : Prop :=
  ∀ (first second : List (Event C)) (firstInFlight secondInFlight : List Request),
    Run monitor settings first firstInFlight → Run monitor settings second secondInFlight →
    SameResponses first second →
    content (reached monitor settings first).feed.view =
      content (reached monitor settings second).feed.view

theorem Mirrors.converges (h : Mirrors monitor content shown)
    (ordered : settings.sequencing = .ordered) : Converges monitor settings content := by
  intro first second firstInFlight secondInFlight _ hsecond hsame
  have hlast : (payloads monitor settings first).getLast?.map Prod.fst =
      (payloads monitor settings second).getLast?.map Prod.fst := by
    rw [← (accepted_eq_last first).1, ← (accepted_eq_last second).1, accepted_eq_max ordered,
      accepted_eq_max ordered, hsame.max_eq]
  rw [h.content_reached, h.content_reached]
  cases hone : (payloads monitor settings first).getLast? with
  | none =>
      cases htwo : (payloads monitor settings second).getLast? with
      | none => rfl
      | some taken =>
          rw [hone, htwo] at hlast
          exact nomatch hlast
  | some one =>
      cases htwo : (payloads monitor settings second).getLast? with
      | none =>
          rw [hone, htwo] at hlast
          exact nomatch hlast
      | some two =>
          obtain ⟨tick, payload⟩ := one
          obtain ⟨tick', payload'⟩ := two
          rw [hone, htwo] at hlast
          simp only [Option.map_some, Option.some.injEq] at hlast
          subst hlast
          obtain ⟨result, hmem, hread⟩ := mem_payloads (List.mem_of_getLast? hone)
          obtain ⟨result', hmem', hread'⟩ := mem_payloads (List.mem_of_getLast? htwo)
          -- the tick completed once, so both payloads come from one result
          have hresult := hsecond.result_unique ((hsame tick result).mp hmem) hmem'
          rw [hresult, hread'] at hread
          exact congrArg shown (Except.ok.inj hread).symm

end PollLoop

/-! ## The five feeds -/

open PollLoop

/-- A feed without follow-ups leaves its view alone when one is filed. -/
theorem Monitor.filed_eq {P V C : Type} {monitor : Monitor P V C}
    (hmonitor : monitor.applyFollowUp = noFollowUp) {view filed : V} {endpoint : Endpoint}
    {response : Json} {changed : Bool}
    (h : monitor.applyFollowUp view endpoint response = .ok (filed, changed)) : filed = view := by
  rw [hmonitor] at h
  exact (congrArg Prod.fst (Except.ok.inj h)).symm

theorem ClientList.mirrors_clients :
    Mirrors ClientList.monitor (fun view => view.clients.items) ReconciledList.ascending where
  payload := fun view ids => ReconciledList.reconcileSorted_items view.clients ids
  response := fun h => congrArg (fun view => view.clients.items) (Monitor.filed_eq rfl h)
  command := fun _ command => by cases command; rfl

theorem StateSummary.mirrors_detail (client state : String) :
    Mirrors (StateSummary.monitor client state) (fun view => view.detail) some where
  payload := fun _ _ => rfl
  response := fun h => congrArg (fun view => view.detail) (Monitor.filed_eq rfl h)
  command := fun _ command => nomatch command

theorem OperationTable.mirrors_rows (family : ProtocolFamily) :
    Mirrors (OperationTable.monitor family) (fun view => view.operations.items)
      OperationCounters.rows where
  payload := fun view counters =>
    ReconciledList.reconcileKeyed_rows view.operations counters.rows
  response := fun h => congrArg (fun view => view.operations.items) (Monitor.filed_eq rfl h)
  command := fun _ command => nomatch command

theorem FilesystemStatus.mirrors_stats (policy : HiddenPolicy) :
    Mirrors (FilesystemStatus.monitor policy) (fun view => view.stats)
      FilesystemSnapshot.stats where
  payload := fun view snapshot => FsStats.patch_fst view.stats snapshot.stats
  response := fun h => congrArg (fun view => view.stats) (Monitor.filed_eq rfl h)
  command := fun _ command => nomatch command

namespace ClientSummary

/-- What the summary shows of a client: whether it is confirmed, and the ids of its sessions and of
its three kinds of states. -/
def View.content (view : View) : Bool × List String × (StateKind → List String) :=
  (view.confirmed, view.sessions.items, fun kind => (view.states kind).ids.items)

theorem mirrors_content (client : String) :
    Mirrors (monitor client) View.content (fun detail =>
      (detail.confirmed, ReconciledList.ascending detail.sessions,
        fun kind => ReconciledList.ascending (detail.states kind))) where
  payload := by
    intro view detail
    show (apply view detail).view.content = _
    simp [View.content]
  response := by
    intro view endpoint response filed changed h
    rcases applyFollowUp_cases h with ⟨rfl, _⟩ | ⟨id, detail, _, _, _, rfl, _⟩
    · rfl
    · rfl
  command := by
    rintro view ⟨kind, state⟩
    show (view.withStates kind ((view.states kind).select state).1).content = view.content
    have hids : ∀ other, ((view.withStates kind ((view.states kind).select state).1).states
        other).ids.items = (view.states other).ids.items := by
      intro other
      rw [states_withStates]
      split
      · rename_i heq
        rw [heq, StateList.select_ids]
      · rfl
    simp only [View.content, withStates_confirmed, withStates_sessions, funext hids]

end ClientSummary

/-- Under ordered sequencing the view is the fold of what was folded in, the payloads among it by
increasing ticks, and the accepted tick is the largest one that decoded. So the order in which the
responses come in does not matter for what the five feeds show of them. -/
theorem ordered_sequencing_converges {settings : PollSettings}
    (ordered : settings.sequencing = .ordered) :
    (∀ {P V C : Type} (monitor : Monitor P V C) (events : List (Event C))
        (inFlight : List Request), Run monitor settings events inFlight →
      (reached monitor settings events).feed.view =
          (contributions monitor settings events).foldl monitor.absorb monitor.initial ∧
        ((payloads monitor settings events).map Prod.fst).Pairwise (· < ·) ∧
        (reached monitor settings events).feed.health.acceptedTick =
          (decodedTicks monitor events).max?) ∧
      Converges ClientList.monitor settings (fun view => view.clients.items) ∧
      (∀ client state,
        Converges (StateSummary.monitor client state) settings (fun view => view.detail)) ∧
      (∀ family,
        Converges (OperationTable.monitor family) settings (fun view => view.operations.items)) ∧
      (∀ client,
        Converges (ClientSummary.monitor client) settings ClientSummary.View.content) ∧
      (∀ policy,
        Converges (FilesystemStatus.monitor policy) settings (fun view => view.stats)) := by
  refine ⟨?_, ?_, ?_, ?_, ?_, ?_⟩
  · intro P V C monitor events inFlight _
    refine ⟨view_reached events, payloads_increasing ordered events, ?_⟩
    rw [(accepted_eq_last events).2, ← (accepted_eq_last events).1]
    exact accepted_eq_max ordered events
  · exact ClientList.mirrors_clients.converges ordered
  · intro client state
    exact (StateSummary.mirrors_detail client state).converges ordered
  · intro family
    exact (OperationTable.mirrors_rows family).converges ordered
  · intro client
    exact (ClientSummary.mirrors_content client).converges ordered
  · intro policy
    exact (FilesystemStatus.mirrors_stats policy).converges ordered

/-- Two answers that overtake each other leave the ids of the later one, in either order. -/
theorem late_answer_changes_nothing :
    PollSettings.standard.sequencing = .ordered ∧ ∃ inFlight late,
      Run ClientList.monitor .standard
        [.tick, .tick, .primary 1 (.ok (.strings ["c"])), .primary 2 (.ok (.strings ["a"]))]
        inFlight ∧
      Run ClientList.monitor .standard
        [.tick, .tick, .primary 2 (.ok (.strings ["a"])), .primary 1 (.ok (.strings ["c"]))]
        late ∧
      (reached ClientList.monitor .standard
        [.tick, .tick, .primary 2 (.ok (.strings ["a"])),
          .primary 1 (.ok (.strings ["c"]))]).feed.health.acceptedTick = some 2 ∧
      (reached ClientList.monitor .standard
        [.tick, .tick, .primary 2 (.ok (.strings ["a"])),
          .primary 1 (.ok (.strings ["c"]))]).feed.view.clients.items = ["a"] := by
  obtain ⟨⟨inFlight, hinOrder⟩, ⟨late, hlate⟩⟩ := Run.either_order ClientList.monitor .standard
    (.ok (.strings ["c"])) (.ok (.strings ["a"]))
  have hconverges := @ordered_sequencing_converges .standard rfl
  refine ⟨rfl, inFlight, late, hinOrder, hlate, ?_, ?_⟩
  · rw [(hconverges.1 _ _ _ hlate).2.2]
    decide +kernel
  · have hsame : @SameResponses ClientList.Command
        [.tick, .tick, .primary 2 (.ok (.strings ["a"])), .primary 1 (.ok (.strings ["c"]))]
        [.tick, .tick, .primary 1 (.ok (.strings ["c"])),
          .primary 2 (.ok (.strings ["a"]))] := by
      intro tick result
      simp [or_comm]
    exact (hconverges.2.1 _ _ _ _ hlate hinOrder hsame).trans (by decide +kernel)

end NfsWatch
