import NfsWatch.Proofs.Rehearsal.Instant
import NfsWatch.Rehearsal.LoopSession

/-!
# The operator of a rehearsed loop

The operator may let time pass, send input, wait for a change, cancel the loop or drop it. Whatever
the script holds and whatever the operator does, the loop comes along a timeline (`kept_after`), and
time passes for it as the operator lets it (`settle_spec`). A loop that was cancelled or dropped is
out of it: the script is asked nothing more, and what was shown last stays (`after_gone`).
-/

namespace NfsWatch

namespace LiveLoop

variable {P V C : Type} {monitor : Monitor P V C} {settings : PollSettings} {asked : List Endpoint}
  {begun now : Nat} {live : LiveLoop P V C} {stage : Stage} {acting : OnStage P V C}

theorem Rehearsed.congr {other : Stage}
    (h : Rehearsed monitor settings asked begun now (live, stage))
    (hasked : other.script.requests = stage.script.requests) :
    Rehearsed monitor settings asked begun now (live, other) := by
  obtain ⟨history, htimeline, hrequests⟩ := h
  exact ⟨history, htimeline, hasked.trans hrequests⟩

theorem Rehearsed.send (h : Rehearsed monitor settings asked begun now (live, stage))
    (command : C) :
    Rehearsed monitor settings asked begun now ((live.send command).1, stage) := by
  unfold LiveLoop.send
  split
  · rename_i hroom
    obtain ⟨history, htimeline, hasked⟩ := h
    have htimely : (Happening.queued command).Timely now := trivial
    refine ⟨history ++ [(now, .queued command)],
      htimeline.takes htimely (.queued hroom) (by simp [Happening.issued]), ?_⟩
    rw [issues_concat, List.map_append]
    simpa [Happening.issued] using hasked
  · exact h

theorem Rehearsed.acknowledge (h : Rehearsed monitor settings asked begun now (live, stage)) :
    Rehearsed monitor settings asked begun now (live.acknowledge, stage) := by
  obtain ⟨history, htimeline, hasked⟩ := h
  exact ⟨history, htimeline.sees live.published, hasked⟩

/-- The loop as it is once it has begun, now or earlier. -/
def begunBy (now : Nat) (live : LiveLoop P V C) : LiveLoop P V C :=
  { live with nextTick := some (live.nextTick.getD now) }

theorem begunBy_of_begun {tick : Nat} (htick : live.nextTick = some tick) (now : Nat) :
    live.begunBy now = live := by
  obtain ⟨monitor, settings, state, nextTick, inFlight, commands, published, seen⟩ := live
  obtain rfl : nextTick = some tick := htick
  rfl

/-- The loop has come here along a timeline, or is to begin here. -/
def Ready (monitor : Monitor P V C) (settings : PollSettings) (asked : List Endpoint) (now : Nat)
    (live : LiveLoop P V C) (stage : Stage) : Prop :=
  Rehearsed monitor settings asked 0 now (live.begunBy now, stage)

theorem ready_spawn (monitor : Monitor P V C) (settings : PollSettings) (stage : Stage) :
    Ready monitor settings stage.script.requests 0 (spawn monitor settings) stage :=
  ⟨[], .begins, by simp [issues]⟩

theorem Ready.congr {other : Stage} (h : Ready monitor settings asked now live stage)
    (hasked : other.script.requests = stage.script.requests) :
    Ready monitor settings asked now live other := Rehearsed.congr h hasked

theorem Rehearsed.begunBy_eq (h : Rehearsed monitor settings asked begun now acting) :
    acting.1.begunBy now = acting.1 := by
  obtain ⟨tick, htick⟩ := h.nextTick_eq
  exact begunBy_of_begun htick now

theorem Rehearsed.ready (h : Rehearsed monitor settings asked 0 now acting) :
    Ready monitor settings asked now acting.1 acting.2 := by
  unfold Ready
  rw [h.begunBy_eq]
  exact h

theorem Ready.begin (h : Ready monitor settings asked now live stage) :
    Rehearsed monitor settings asked 0 now (begin now (live, stage)) := by
  unfold Ready begunBy at h
  unfold LiveLoop.begin
  cases htick : live.nextTick with
  | some tick =>
      have hsame := begunBy_of_begun htick now
      unfold begunBy at hsame
      rw [hsame] at h
      exact h
  | none =>
      rw [htick] at h
      exact h.congr rfl

/-- A loop that is told to stop asks the script nothing more. -/
theorem stop_script (now : Nat) (acting : OnStage P V C) :
    (stop now acting).script = acting.2.script := by
  unfold LiveLoop.stop LiveLoop.begin
  cases acting.1.nextTick <;> rfl

theorem send_feed (live : LiveLoop P V C) (command : C) :
    (live.send command).1.feed = live.feed := by
  unfold LiveLoop.send
  split <;> rfl

theorem Ready.send (h : Ready monitor settings asked now live stage) (command : C) :
    Ready monitor settings asked now (live.send command).1 stage := by
  have hcommutes : (live.send command).1.begunBy now = ((live.begunBy now).send command).1 := by
    unfold LiveLoop.send begunBy
    by_cases hroom : live.commands.length < commandCapacity <;> simp [hroom]
  unfold Ready
  rw [hcommutes]
  exact Rehearsed.send h command

theorem Ready.acknowledge (h : Ready monitor settings asked now live stage) :
    Ready monitor settings asked now live.acknowledge stage := Rehearsed.acknowledge h

end LiveLoop

namespace Rehearsal.LoopSession

open LiveLoop

variable {P V C : Type} {monitor : Monitor P V C} {settings : PollSettings} {asked : List Endpoint}
  {session : LoopSession P V C}

/-- The loop of the session, if there is one, has come here along a timeline, and its feed is the
one that is shown. -/
def Kept (monitor : Monitor P V C) (settings : PollSettings) (asked : List Endpoint)
    (session : LoopSession P V C) : Prop :=
  ∀ live, session.live = some live →
    Ready monitor settings asked session.now live session.stage ∧ session.feed = live.feed

/-- Running the loop of a session for a while. -/
theorem runFor_spec (hinterval : 0 < settings.intervalMs) {live : LiveLoop P V C}
    (h : Ready monitor settings asked session.now live session.stage) (ms : Nat)
    (done : LiveLoop P V C → Bool) :
    ∃ after, (session.runFor live ms done).live = some after ∧
      Ready monitor settings asked (session.runFor live ms done).now after
        (session.runFor live ms done).stage ∧
      (session.runFor live ms done).feed = after.feed ∧
      (done after = false →
        (session.runFor live ms done).now = session.now + ms ∧
          (after.begunBy (session.now + ms)).IdleUntil (session.now + ms + 1)) := by
  obtain ⟨reached, after, hadvance, hreached, hidle, _, _, hdone⟩ :=
    Rehearsed.advance hinterval (fun acting => done acting.1) (Nat.le_add_right session.now ms)
      h.begin.runAt (h.begin.idle_runAt hinterval)
  have hsession : session.runFor live ms done =
      { session.observe after.1 after.2 with now := reached } := by
    unfold runFor
    simp only [hadvance]
  rw [hsession]
  refine ⟨after.1, rfl, hreached.ready, rfl, ?_⟩
  intro hnot
  obtain rfl := hdone hnot
  refine ⟨rfl, ?_⟩
  rw [hreached.begunBy_eq]
  exact hidle

/-- Without a loop the operator can let time pass, and nothing else happens. -/
theorem act_gone (hgone : session.live = none) (action : LoopStep C) :
    (session.act action).1.live = none ∧ (session.act action).1.feed = session.feed ∧
      (session.act action).1.stage = session.stage := by
  cases action <;> simp [act, hgone]

theorem act_settle {live : LiveLoop P V C} (hlive : session.live = some live) (ms : Nat) :
    (session.act (.settle ms)).1 = session.runFor live ms fun _ => false := by
  simp only [act, hlive]

/-- The operator is shown a change that was not seen, or the one that comes first. -/
theorem act_changedWithin {live : LiveLoop P V C} (hlive : session.live = some live) (ms : Nat) :
    (session.act (.changedWithin ms)).1 = { session with live := some live.acknowledge } ∨
      (session.act (.changedWithin ms)).1 = session.runFor live ms LiveLoop.hasUnseen ∨
      ∃ after, (session.runFor live ms LiveLoop.hasUnseen).live = some after ∧
        (session.act (.changedWithin ms)).1 =
          { session.runFor live ms LiveLoop.hasUnseen with live := some after.acknowledge } := by
  simp only [act, hlive]
  split
  · exact Or.inl rfl
  · split
    · exact Or.inr (Or.inl rfl)
    · rename_i after hafter
      split
      · exact Or.inr (Or.inr ⟨after, hafter, rfl⟩)
      · exact Or.inr (Or.inl rfl)

theorem Kept.act (hinterval : 0 < settings.intervalMs) (h : Kept monitor settings asked session)
    (action : LoopStep C) : Kept monitor settings asked (session.act action).1 := by
  intro live hlive
  cases hbefore : session.live with
  | none => exact absurd ((act_gone hbefore action).1.symm.trans hlive) (by simp)
  | some before =>
      obtain ⟨hready, hfeed⟩ := h before hbefore
      cases action with
      | settle ms =>
          obtain ⟨after, hafter, hkept, hshown, _⟩ :=
            runFor_spec hinterval hready ms fun _ => false
          rw [act_settle hbefore] at hlive ⊢
          obtain rfl := Option.some.inj (hafter.symm.trans hlive)
          exact ⟨hkept, hshown⟩
      | command command =>
          simp only [LoopSession.act, hbefore] at hlive ⊢
          obtain rfl := Option.some.inj hlive
          exact ⟨hready.send command, hfeed.trans (before.send_feed command).symm⟩
      | cancel => simp [LoopSession.act, LoopSession.ended, hbefore] at hlive
      | drop => exact nomatch hlive
      | changedWithin ms =>
          obtain ⟨after, hafter, hkept, hshown, _⟩ :=
            runFor_spec hinterval hready ms LiveLoop.hasUnseen
          -- there is news already, or none comes in time, or some does
          rcases act_changedWithin hbefore ms with hact | hact | ⟨other, hother, hact⟩
          · rw [hact] at hlive ⊢
            obtain rfl := Option.some.inj hlive
            exact ⟨hready.acknowledge, hfeed⟩
          · rw [hact] at hlive ⊢
            obtain rfl := Option.some.inj (hafter.symm.trans hlive)
            exact ⟨hkept, hshown⟩
          · rw [hact] at hlive ⊢
            obtain rfl := Option.some.inj hlive
            obtain rfl := Option.some.inj (hafter.symm.trans hother)
            exact ⟨hkept.acknowledge, hshown⟩

/-! ## Sessions -/

/-- The session after these steps of the operator. -/
def after (session : LoopSession P V C) (actions : List (LoopStep C)) : LoopSession P V C :=
  actions.foldl (fun session action => (session.step action).1) session

theorem kept_start (monitor : Monitor P V C) (settings : PollSettings) (script : Script) :
    Kept monitor settings script.requests (start monitor settings script) := by
  intro live hlive
  obtain rfl := Option.some.inj hlive
  exact ⟨ready_spawn monitor settings ⟨script, []⟩, rfl⟩

theorem Kept.step (hinterval : 0 < settings.intervalMs) (h : Kept monitor settings asked session)
    (action : LoopStep C) : Kept monitor settings asked (session.step action).1 := by
  intro live hlive
  obtain ⟨hready, hfeed⟩ := h.act hinterval action live hlive
  exact ⟨hready.congr rfl, hfeed⟩

/-- Whatever the script and whatever the operator does, the loop comes along a timeline. -/
theorem kept_after (hinterval : 0 < settings.intervalMs) (monitor : Monitor P V C) (script : Script)
    (actions : List (LoopStep C)) :
    Kept monitor settings script.requests ((start monitor settings script).after actions) := by
  suffices hall : ∀ session : LoopSession P V C, Kept monitor settings script.requests session →
      Kept monitor settings script.requests (session.after actions) from
    hall _ (kept_start monitor settings script)
  induction actions with
  | nil =>
      intro session h
      exact h
  | cons action rest ih =>
      intro session h
      exact ih _ (h.step hinterval action)

/-- And time passes for it as the operator lets it. -/
theorem settle_spec (hinterval : 0 < settings.intervalMs)
    (h : Kept monitor settings asked session) {live : LiveLoop P V C}
    (hlive : session.live = some live) (ms : Nat) :
    (session.step (.settle ms)).1.now = session.now + ms ∧
      ∃ after, (session.step (.settle ms)).1.live = some after ∧
        (after.begunBy (session.now + ms)).IdleUntil (session.now + ms + 1) := by
  obtain ⟨after, hafter, _, _, hdone⟩ :=
    runFor_spec hinterval (h live hlive).1 ms fun _ => false
  obtain ⟨hnow, hidle⟩ := hdone rfl
  have hact := act_settle hlive ms
  refine ⟨?_, after, ?_, hidle⟩
  · show (session.act (.settle ms)).1.now = _
    rw [hact]
    exact hnow
  · show (session.act (.settle ms)).1.live = _
    rw [hact]
    exact hafter

/-- The loop is gone once it was cancelled or dropped; neither changes what is shown nor asks the
script anything. -/
theorem gone_of_stop (h : Kept monitor settings asked session) {action : LoopStep C}
    (hstop : action = .cancel ∨ action = .drop) :
    (session.step action).1.live = none ∧ (session.step action).1.feed = session.feed ∧
      (session.step action).1.stage.script = session.stage.script := by
  cases hlive : session.live with
  | none =>
      obtain ⟨hgone, hfeed, hstage⟩ := act_gone hlive action
      refine ⟨hgone, hfeed, ?_⟩
      show (session.act action).1.stage.script = _
      rw [hstage]
  | some live =>
      obtain ⟨_, hshown⟩ := h live hlive
      rcases hstop with rfl | rfl
      · have hscript := stop_script session.now (live, session.stage)
        simp [step, act, hlive, ended, observe, hshown, hscript]
      · exact ⟨rfl, rfl, rfl⟩

/-- From then on the script is asked nothing, and what is shown stays. -/
theorem after_gone (hgone : session.live = none) (actions : List (LoopStep C)) :
    (session.after actions).feed = session.feed ∧
      (session.after actions).stage.script = session.stage.script := by
  induction actions generalizing session with
  | nil => exact ⟨rfl, rfl⟩
  | cons action rest ih =>
      obtain ⟨hstill, hfeed, hstage⟩ := act_gone hgone action
      have hscript : (session.step action).1.stage.script = session.stage.script := by
        show (session.act action).1.stage.script = _
        rw [hstage]
      have hstep : (session.step action).1.live = none := hstill
      obtain ⟨hfeedRest, hscriptRest⟩ := ih hstep
      exact ⟨hfeedRest.trans hfeed, hscriptRest.trans hscript⟩

end Rehearsal.LoopSession

end NfsWatch
