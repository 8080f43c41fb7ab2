import NfsWatch.Monitor.ClientList
import NfsWatch.Monitor.FilesystemStatus
import NfsWatch.Monitor.OperationTable
import NfsWatch.Monitor.StateSummary
import NfsWatch.Proofs.Monitor.SessionBatches
import NfsWatch.Proofs.Rehearsal.Ended

/-!
# The cadence of polls

Nothing that a server answers moves the polls: they come once an interval, under their numbers and
for the endpoint of the monitor, however slowly, wrongly or often in between it answers. Four of the
monitors issue nothing else. The summary of a client also asks for sessions, and for each of them
at the instant at which it comes to be listed (`ClientSummary.session_requested`).
-/

namespace NfsWatch

open LiveLoop PollLoop Rehearsal

/-! ## Monitors that only poll -/

namespace Monitor

variable {P V C : Type}

/-- No response makes the monitor ask for more. -/
def AsksNoMore (monitor : Monitor P V C) : Prop :=
  ∀ view payload, (monitor.apply view payload).followUps = none

variable {monitor : Monitor P V C} {settings : PollSettings} {begun now : Nat}
  {history : List (Nat × Happening C)} {live : LiveLoop P V C}

theorem AsksNoMore.requests (h : monitor.AsksNoMore) (loop : PollLoop V) (event : Event C) :
    ∀ request ∈ (step monitor settings loop event).requests, request.tick?.isSome := by
  have hacts := acts_step monitor settings loop event
  generalize step monitor settings loop event = effect at hacts ⊢
  cases hacts with
  | tick => exact fun request hmem => List.mem_singleton.mp hmem ▸ rfl
  | payload current read => simp [onPayload, h _ _]
  | failure current read => simp [onFailure]
  | command command => simp [onCommand]
  | superseded | discarded | filed | unfiled => simp

theorem AsksNoMore.issues_eq (h : monitor.AsksNoMore)
    (htimeline : Timeline monitor settings begun history now live) :
    issues history = primaries history := by
  refine (List.filter_eq_self.mpr ?_).symm
  rintro ⟨instant, request⟩ hmem
  obtain ⟨_, _, _, event, _, _, _, hrequest⟩ := htimeline.issuer hmem
  exact h.requests _ event request hrequest

end Monitor

/-! ## Requests for sessions -/

namespace ClientSummary

/-- Upon this happening other sessions are listed than before, and each of them is requested. -/
structure Installs (client : String) (settings : PollSettings) (before : List (Happening Command))
    (happening : Happening Command) (ids : List String) : Prop where
  listed : (shown client settings (events (before ++ [happening]))).sessions =
    ⟨ids, (shown client settings (events before)).sessions.generation + 1⟩
  requested : happening.issued.map InFlight.request = ids.map fun id =>
    .followUp ((shown client settings (events before)).sessions.generation + 1) (.session id)

variable {client : String} {settings : PollSettings} {begun now : Nat}
  {history : List (Nat × Happening Command)} {live : LiveLoop ClientDetail View Command}

/-- An event that issues a request of a batch lists other sessions than before. -/
theorem installed_of_issued {before : List (Event Command)} {event : Event Command} {batch : Nat}
    {endpoint : Endpoint}
    (hissued : Request.followUp batch endpoint ∈
      (effectAfter (monitor client) settings before event).requests) :
    ∃ ids, (shown client settings (before ++ [event])).sessions =
        ⟨ids, (shown client settings before).sessions.generation + 1⟩ ∧
      (effectAfter (monitor client) settings before event).requests = ids.map fun id =>
        .followUp ((shown client settings before).sessions.generation + 1) (.session id) := by
  have hstep := sessionsStep _ _ (acts_effectAfter (monitor client) settings before event)
  obtain ⟨hnumber, hraised⟩ := batch_of_issued hissued
  have hgeneration := (@sessionsSound client settings before).batch
  unfold shown at hgeneration ⊢
  rw [reached_concat] at hraised ⊢
  rw [← hgeneration]
  generalize effectAfter (monitor client) settings before event = effect at *
  generalize hview : effect.loop.feed.view = view at hstep ⊢
  generalize hbatch : effect.loop.batch = after at hstep
  -- nothing else that happens to the sessions raises the number of the batch
  cases hstep with
  | installed ids sessions info addresses requested =>
      exact ⟨ids, by rw [sessions, hgeneration], requested⟩
  | kept => omega
  | filed => omega

/-- What is requested besides the polls are sessions, at the instant at which they come to be
listed. -/
theorem session_requested (h : Timeline (monitor client) settings begun history now live)
    {instant : Nat} {request : Request} (hissued : (instant, request) ∈ issues history)
    (hother : request.tick? = none) :
    ∃ before happening later ids, history = before ++ (instant, happening) :: later ∧
      Installs client settings (before.map Prod.snd) happening ids ∧
      ∃ id ∈ ids, request.endpoint = .session id := by
  obtain ⟨before, happening, later, event, hsplit, hevent, hrequests, hrequest⟩ := h.issuer hissued
  cases request with
  | primary tick endpoint => exact absurd hother (by simp [Request.tick?])
  | followUp batch endpoint =>
      obtain ⟨ids, hlisted, hall⟩ := installed_of_issued hrequest
      have hevents : events (before.map Prod.snd ++ [happening]) =
          events (before.map Prod.snd) ++ [event] := by
        simp [events, hevent]
      refine ⟨before, happening, later, ids, hsplit,
        ⟨hevents ▸ hlisted, hrequests.trans hall⟩, ?_⟩
      rw [hall] at hrequest
      obtain ⟨id, hid, hsame⟩ := List.mem_map.mp hrequest
      exact ⟨id, hid, congrArg Request.endpoint hsame.symm⟩

end ClientSummary

/-! ## The cadence -/

theorem ClientList.asksNoMore : ClientList.monitor.AsksNoMore := fun _ _ => rfl

theorem StateSummary.asksNoMore (client state : String) :
    (StateSummary.monitor client state).AsksNoMore := fun _ _ => rfl

theorem FilesystemStatus.asksNoMore (policy : HiddenPolicy) :
    (FilesystemStatus.monitor policy).AsksNoMore := fun _ _ => rfl

theorem OperationTable.asksNoMore (family : ProtocolFamily) :
    (OperationTable.monitor family).AsksNoMore := fun _ _ => rfl

/-- Whatever is answered when, whatever the operator does and in whatever order things happen that
happen at once, a loop polls once an interval from its beginning on, under consecutive numbers and
for the endpoint of its monitor: two loops with one interval poll alike. Rehearsed against any
script a loop does so until it is cancelled or dropped, upon which the script is asked nothing more
and what is shown stays, whatever the loop still did before it met the request to stop. What is
requested besides are sessions, when they come to be listed. -/
theorem poll_cadence {P V C : Type} (monitor : Monitor P V C) {settings : PollSettings}
    (hinterval : 0 < settings.intervalMs) :
    (∀ {begun now : Nat} {history : List (Nat × Happening C)} {live : LiveLoop P V C},
      Timeline monitor settings begun history now live →
      ∃ ticks, primaries history =
          (List.range ticks).map (fun k =>
            (begun + k * settings.intervalMs, .primary (k + 1) monitor.endpoint)) ∧
        (∀ k, begun + k * settings.intervalMs < now → k < ticks) ∧
        (∀ k, k < ticks → begun + k * settings.intervalMs ≤ now) ∧
        (live.IdleUntil (now + 1) →
          ∀ k, begun + k * settings.intervalMs ≤ now → k < ticks)) ∧
    (∀ {settings' : PollSettings} {begun now : Nat} {history history' : List (Nat × Happening C)}
      {live live' : LiveLoop P V C}, settings'.intervalMs = settings.intervalMs →
      Timeline monitor settings begun history now live →
      Timeline monitor settings' begun history' now live' →
      (primaries history).filter (fun entry => entry.1 < now) =
          (primaries history').filter (fun entry => entry.1 < now) ∧
        (live.IdleUntil (now + 1) → live'.IdleUntil (now + 1) →
          primaries history = primaries history')) ∧
    (∀ (script : Script) (actions : List (LoopStep C)) (session : LoopSession P V C),
      (LoopSession.start monitor settings script).after actions = session →
      (∀ live, session.live = some live →
        (∃ history,
          Timeline monitor settings 0 history session.now (live.begunBy session.now) ∧
          session.stage.script.requests =
            script.requests ++ (issues history).map fun entry => entry.2.endpoint) ∧
        session.feed = live.feed ∧
        (∀ ms, (session.step (.settle ms)).1.now = session.now + ms ∧
          ∃ after, (session.step (.settle ms)).1.live = some after ∧
            (after.begunBy (session.now + ms)).IdleUntil (session.now + ms + 1)) ∧
        (∃ last, Ends session.now (live, session.stage) last ∧
          (session.act .cancel).1 = session.ended last.1 last.2) ∧
        ∀ last, Ends session.now (live, session.stage) last →
          (∃ history,
            Timeline monitor settings 0 history session.now (last.1.begunBy session.now) ∧
            last.2.script.requests =
              script.requests ++ (issues history).map fun entry => entry.2.endpoint) ∧
          ∀ rest, ((session.ended last.1 last.2).after rest).feed = last.1.feed ∧
            ((session.ended last.1 last.2).after rest).stage.script = last.2.script) ∧
      ∀ stop, stop = .cancel ∨ stop = .drop → ∀ rest,
        ((session.step stop).1.after rest).feed = session.feed ∧
          ((session.step stop).1.after rest).stage.script = session.stage.script) ∧
    (∀ {client : String} {begun now : Nat} {history : List (Nat × Happening ClientSummary.Command)}
      {live : LiveLoop ClientDetail ClientSummary.View ClientSummary.Command},
      Timeline (ClientSummary.monitor client) settings begun history now live →
      ∀ {instant : Nat} {request : Request}, (instant, request) ∈ issues history →
        request.tick? = none →
        ∃ before happening later ids, history = before ++ (instant, happening) :: later ∧
          ClientSummary.Installs client settings (before.map Prod.snd) happening ids ∧
          ∃ id ∈ ids, request.endpoint = .session id) ∧
    ClientList.monitor.AsksNoMore ∧
    (∀ client state, (StateSummary.monitor client state).AsksNoMore) ∧
    (∀ policy, (FilesystemStatus.monitor policy).AsksNoMore) ∧
    (∀ family, (OperationTable.monitor family).AsksNoMore) ∧
    (monitor.AsksNoMore → ∀ {begun now : Nat} {history : List (Nat × Happening C)}
      {live : LiveLoop P V C}, Timeline monitor settings begun history now live →
      issues history = primaries history) := by
  refine ⟨?_, ?_, ?_, ClientSummary.session_requested, ClientList.asksNoMore,
    StateSummary.asksNoMore, FilesystemStatus.asksNoMore, OperationTable.asksNoMore,
    fun hnone _ _ _ _ htimeline => hnone.issues_eq htimeline⟩
  · intro begun now history live htimeline
    have hschedule := htimeline.onSchedule
    exact ⟨_, hschedule.primaries_eq, fun _ => hschedule.lt_issued, hschedule.ticked_le,
      fun hidle k => (hschedule.lt_issued_iff hidle k).mpr⟩
  · intro settings' begun now history history' live live' hsame htimeline htimeline'
    have hschedule := htimeline.onSchedule
    have hschedule' := htimeline'.onSchedule
    exact ⟨hschedule.agree hschedule' rfl hsame, hschedule.agree_idle hschedule' rfl hsame⟩
  · rintro script actions _ rfl
    have hkept := LoopSession.kept_after hinterval monitor script actions
    refine ⟨?_, ?_⟩
    · intro live hlive
      obtain ⟨hrehearsed, hfeed⟩ := hkept live hlive
      refine ⟨hrehearsed, hfeed, LoopSession.settle_spec hinterval hkept hlive,
        LoopSession.act_cancel hlive, ?_⟩
      intro last hends
      exact ⟨hrehearsed.ends hends, LoopSession.after_ended last⟩
    · intro stop hstop rest
      obtain ⟨hgone, hfeed, hscript⟩ := LoopSession.gone_of_stop hkept hstop
      obtain ⟨hfeedRest, hscriptRest⟩ := LoopSession.after_gone hgone rest
      exact ⟨hfeedRest.trans hfeed, hscriptRest.trans hscript⟩

/-- A server that takes five seconds to answer is asked once a second all the same. -/
theorem slow_server_polled :
    0 < PollSettings.standard.intervalMs ∧
      ∃ history live, Timeline ClientList.monitor .standard 0 history 2500 live ∧
        issues history =
          [(0, .primary 1 .clients), (1000, .primary 2 .clients), (2000, .primary 3 .clients)] := by
  have hpositive : 0 < PollSettings.standard.intervalMs := by decide
  let slow := Script.empty.push .clients ⟨5000, .ok (.strings ["a"])⟩
  let begins := LoopSession.start ClientList.monitor .standard slow
  obtain ⟨honTime, _, hrehearsed, _, hasksNoMore, _, _, _, hnoOther⟩ :=
    poll_cadence ClientList.monitor hpositive
  -- the operator lets two and a half seconds pass
  obtain ⟨_, _, hsettles, _⟩ := (hrehearsed slow [] begins rfl).1 _ rfl
  obtain ⟨hnow, live, hlive, hidle⟩ := hsettles 2500
  obtain ⟨history, htimeline, _⟩ :=
    ((hrehearsed slow [.settle 2500] (begins.step (.settle 2500)).1 rfl).1 live hlive).1
  rw [hnow] at htimeline
  change Timeline _ _ 0 history 2500 (live.begunBy 2500) at htimeline
  obtain ⟨ticks, hprimaries, _, hcome, hall⟩ := honTime htimeline
  refine ⟨hpositive, history, _, htimeline, ?_⟩
  obtain rfl : ticks = 3 := by
    have hthird := hall hidle 2 (by decide)
    have hnotFourth : ¬ 3 < ticks := fun hfourth => absurd (hcome 3 hfourth) (by decide)
    omega
  rw [hnoOther hasksNoMore htimeline, hprimaries]
  rfl

end NfsWatch
