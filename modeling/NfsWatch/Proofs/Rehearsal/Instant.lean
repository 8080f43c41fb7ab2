import NfsWatch.Proofs.Poll.Batches
import NfsWatch.Proofs.Poll.Timeline
import NfsWatch.Proofs.Rehearsal.Served

/-!
# A rehearsed loop keeps to a timeline

A rehearsal runs a live loop against a script: at each instant the loop does all that is due, in one
order of the many that a timeline allows, and then time jumps to the next instant at which something
is due. So what happens is a timeline on which the script is asked for exactly the requests issued
(`Rehearsed`), and time is stopped short of nothing but what the operator waits for
(`Rehearsed.advance`).
-/

namespace NfsWatch

namespace LiveLoop

variable {P V C : Type} {monitor : Monitor P V C} {settings : PollSettings} {asked : List Endpoint}
  {begun now : Nat} {live : LiveLoop P V C} {stage : Stage} {acting : OnStage P V C}

/-- The loop has come here along a timeline, and besides what was asked before it began the script
was asked for what was issued on that timeline. -/
def Rehearsed (monitor : Monitor P V C) (settings : PollSettings) (asked : List Endpoint)
    (begun now : Nat) (acting : OnStage P V C) : Prop :=
  ∃ history, Timeline monitor settings begun history now acting.1 ∧
    acting.2.script.requests = asked ++ (issues history).map fun entry => entry.2.endpoint

/-- Something happens on the stage as it may happen on the timeline. -/
theorem Rehearsed.perform {event : Event C} {before : LiveLoop P V C}
    (h : Rehearsed monitor settings asked begun now (live, stage))
    (happening : List InFlight → Happening C)
    (hissued : ∀ issued, (happening issued).issued = issued)
    (htimely : ∀ issued, (happening issued).Timely now)
    (htakes : ∀ {issued}, issued.map InFlight.request = (before.handle event).2.requests →
      live.Takes (happening issued)
        { (before.handle event).1 with inFlight := before.inFlight ++ issued }) :
    Rehearsed monitor settings asked begun now (perform now (before, stage) event) := by
  obtain ⟨history, htimeline, hasked⟩ := h
  obtain ⟨hrequests, hdue, hfetched⟩ := fetched_spec now before stage event
  refine ⟨history ++ [(now, happening (fetched now before stage event).2)],
    htimeline.takes (htimely _) (htakes hrequests) ?_, ?_⟩
  · rw [hissued]
    exact hdue
  · rw [issues_concat, hissued, List.map_append, ← List.append_assoc, ← hasked, List.map_map]
    exact hfetched

/-! ## One instant -/

/-- Whatever is served is served along the timeline. -/
theorem Rehearsed.serves {after : OnStage P V C}
    (h : Rehearsed monitor settings asked begun now acting) (hserves : Serves now acting after) :
    Rehearsed monitor settings asked begun now after := by
  obtain ⟨live, stage⟩ := acting
  cases hserves with
  | @ticked next hnext hdue =>
      obtain ⟨history, htimeline, hasked⟩ := h
      have hsettings : live.settings = settings := htimeline.driven.settings_eq
      subst hsettings
      obtain ⟨hrequests, hlater, hfetched⟩ := fetched_spec now
        { live with nextTick := some (next + live.settings.intervalMs) } stage .tick
      refine ⟨history ++ [(now, .ticked _)], htimeline.ticks hnext hdue (.ticked hrequests) hlater,
        ?_⟩
      rw [issues_concat, List.map_append, ← List.append_assoc, ← hasked, List.map_map]
      exact hfetched
  | @answered earlier later flight hflight hdue =>
      exact h.perform (.answered flight) (fun _ => rfl) (fun _ => hdue)
        fun hrequests => .answered hflight hrequests
  | @handled command waiting hcommands =>
      exact h.perform (.handled command) (fun _ => rfl) (fun _ => trivial)
        fun hrequests => .handled hcommands hrequests

theorem Rehearsed.served {after : OnStage P V C}
    (h : Rehearsed monitor settings asked begun now acting) (hserved : Served now acting after) :
    Rehearsed monitor settings asked begun now after := by
  induction hserved with
  | refl => exact h
  | tail _ hserves ih => exact ih.serves hserves

/-- All that is due at an instant is done along the timeline. -/
theorem Rehearsed.runAt (h : Rehearsed monitor settings asked begun now (begin now acting)) :
    Rehearsed monitor settings asked begun now (runAt now acting) :=
  h.served (served_runAt now acting)

/-! ## Nothing is left to do -/

section performAll

variable {α : Type} (now : Nat) (items : List α) (read : α → Event C)

/-- Events leave the agenda of the clock and of the operator alone. -/
theorem performAll_agenda (acting : OnStage P V C) :
    (items.foldl (fun acting item => perform now acting (read item)) acting).1.commands =
        acting.1.commands ∧
      (items.foldl (fun acting item => perform now acting (read item)) acting).1.nextTick =
        acting.1.nextTick := by
  induction items generalizing acting with
  | nil => exact ⟨rfl, rfl⟩
  | cons item rest ih => exact ih (perform now acting (read item))

/-- Events other than ticks put no requests of ticks on their way. -/
theorem performAll_inFlight (hread : ∀ item, read item ≠ .tick) (acting : OnStage P V C) :
    ∀ flight ∈ (items.foldl (fun acting item => perform now acting (read item)) acting).1.inFlight,
      flight ∈ acting.1.inFlight ∨ flight.request.tick? = none := by
  induction items generalizing acting with
  | nil =>
      intro flight hmem
      exact Or.inl hmem
  | cons item rest ih =>
      intro flight hmem
      rcases ih (perform now acting (read item)) flight hmem with hbefore | hnone
      · rcases List.mem_append.mp hbefore with hold | hnew
        · exact Or.inl hold
        · have hrequests := (fetched_spec now acting.1 acting.2 (read item)).1
          refine Or.inr ((PollLoop.issued_of_ne_tick acting.1.monitor acting.1.settings
            acting.1.state (hread item)).2 flight.request ?_)
          change flight.request ∈ (acting.1.handle (read item)).2.requests
          rw [← hrequests]
          exact List.mem_map_of_mem hnew
      · exact Or.inr hnone

end performAll

/-- What the responses to a batch leave on its way is what was on its way. -/
theorem performAll_followUps (now : Nat) (flights : List InFlight)
    (hnone : ∀ flight ∈ flights, flight.request.tick? = none) (acting : OnStage P V C) :
    (flights.foldl
      (fun acting flight => perform now acting (flight.request.completed flight.result)) acting).1.inFlight = acting.1.inFlight := by
  induction flights generalizing acting with
  | nil => rfl
  | cons flight rest ih =>
      have hquiet : (acting.1.handle (flight.request.completed flight.result)).2.requests = [] := by
        have hfollowUp := hnone flight List.mem_cons_self
        cases hrequest : flight.request with
        | primary tick endpoint => simp [hrequest, Request.tick?] at hfollowUp
        | followUp batch endpoint =>
            exact PollLoop.requests_followUp acting.1.monitor acting.1.settings acting.1.state batch
              endpoint flight.result
      have hkept : (perform now acting
          (flight.request.completed flight.result)).1.inFlight = acting.1.inFlight := by
        have hissued := (fetched_spec now acting.1 acting.2
          (flight.request.completed flight.result)).1
        rw [hquiet, List.map_eq_nil_iff] at hissued
        show acting.1.inFlight ++ (fetched now acting.1 acting.2
          (flight.request.completed flight.result)).2 = _
        rw [hissued, List.append_nil]
      have hrest := ih (fun other hmem => hnone other (List.mem_cons_of_mem _ hmem))
        (perform now acting (flight.request.completed flight.result))
      exact hrest.trans hkept

theorem takeArrived_agenda (now : Nat) (acting : OnStage P V C) :
    (takeArrived now acting).1.commands = acting.1.commands ∧
      (takeArrived now acting).1.nextTick = acting.1.nextTick :=
  performAll_agenda now _ _ _

theorem mem_takeArrived (now : Nat) (acting : OnStage P V C) :
    ∀ flight ∈ (takeArrived now acting).1.inFlight,
      now < flight.dueMs ∨ flight.request.tick? = none := by
  intro flight hmem
  unfold takeArrived at hmem
  rw [List.partition_eq_filter_filter] at hmem
  rcases performAll_inFlight now _ _
    (fun flight => flight.request.completed_ne_tick flight.result) _ flight hmem with hwaiting | hnone
  · have hlater := (List.mem_filter.mp hwaiting).2
    simp at hlater
    exact Or.inl hlater
  · exact Or.inr hnone

/-- Taken again, the responses that have arrived are those to a batch, and nothing follows from
them. -/
theorem mem_takeArrived_again (now : Nat) (acting : OnStage P V C)
    (h : ∀ flight ∈ acting.1.inFlight, now < flight.dueMs ∨ flight.request.tick? = none) :
    ∀ flight ∈ (takeArrived now acting).1.inFlight, now < flight.dueMs := by
  intro flight hmem
  unfold takeArrived at hmem
  rw [List.partition_eq_filter_filter] at hmem
  dsimp only at hmem
  rw [performAll_followUps] at hmem
  · have hlater := (List.mem_filter.mp hmem).2
    simpa using hlater
  · intro other hother
    obtain ⟨hflight, harrived⟩ := List.mem_filter.mp hother
    rcases h other hflight with hlater | hnone
    · exact absurd (of_decide_eq_true harrived) (Nat.not_le.mpr hlater)
    · exact hnone

/-- A loop on its schedule that ticks if that is due is to tick later next time. -/
theorem Rehearsed.tickIfDue_agenda (h : Rehearsed monitor settings asked begun now acting)
    (hinterval : 0 < settings.intervalMs) :
    (LiveLoop.tickIfDue now acting).1.commands = acting.1.commands ∧
      ∀ next, (LiveLoop.tickIfDue now acting).1.nextTick = some next → now < next := by
  obtain ⟨live, stage⟩ := acting
  obtain ⟨history, htimeline, _⟩ := h
  have hsettings : live.settings = settings := htimeline.driven.settings_eq
  have hnext := htimeline.onSchedule.nextTick_eq
  have hnow := htimeline.onSchedule.le_next
  subst hsettings
  dsimp only at hnext hnow hinterval
  generalize begun + live.state.sequencer.issued * live.settings.intervalMs = due at hnext hnow
  by_cases hdue : due ≤ now
  · simp only [LiveLoop.tickIfDue, hnext, if_pos hdue]
    refine ⟨rfl, ?_⟩
    rintro _ ⟨⟩
    omega
  · simp only [LiveLoop.tickIfDue, hnext, if_neg hdue]
    refine ⟨trivial, ?_⟩
    rintro _ ⟨⟩
    omega

/-- A loop that did all that is due has nothing left to do at that instant. -/
theorem Rehearsed.idle_runAt (h : Rehearsed monitor settings asked begun now (begin now acting))
    (hinterval : 0 < settings.intervalMs) : (LiveLoop.runAt now acting).1.IdleUntil (now + 1) := by
  obtain ⟨hcommands, htick⟩ := (h.served (served_handleCommands now _)).tickIfDue_agenda hinterval
  have hhandled : (LiveLoop.handleCommands now (begin now acting)).1.commands = [] :=
    (performAll_agenda now _ _ _).1
  obtain ⟨hfirst, hfirstTick⟩ := takeArrived_agenda now
    (LiveLoop.tickIfDue now (LiveLoop.handleCommands now (begin now acting)))
  obtain ⟨hsecond, hsecondTick⟩ := takeArrived_agenda now (LiveLoop.takeArrived now
    (LiveLoop.tickIfDue now (LiveLoop.handleCommands now (begin now acting))))
  refine ⟨?_, ?_, ?_⟩
  · exact hsecond.trans (hfirst.trans (hcommands.trans hhandled))
  · intro next hnext
    exact htick next ((hsecondTick.trans hfirstTick).symm.trans hnext)
  · -- what arrives at once after the first round are responses to a batch, which the second takes
    exact mem_takeArrived_again now _ (mem_takeArrived now _)

/-! ## From instant to instant -/

/-- What is due next is the next tick or a response, and nothing is due before it. -/
theorem nextDue_spec {tick : Nat} (htick : live.nextTick = some tick) :
    ∃ next, live.nextDue = some next ∧ next ≤ tick ∧
      (∀ flight ∈ live.inFlight, next ≤ flight.dueMs) ∧
      (next = tick ∨ ∃ flight ∈ live.inFlight, next = flight.dueMs) := by
  -- the fold may start at any instant: each response moves its start
  suffices hall : ∀ (flights : List InFlight) (first : Nat), ∃ next,
      flights.foldl (fun due flight => Clock.earliest due (some flight.dueMs)) (some first) =
        some next ∧ next ≤ first ∧ (∀ flight ∈ flights, next ≤ flight.dueMs) ∧
      (next = first ∨ ∃ flight ∈ flights, next = flight.dueMs) by
    unfold nextDue
    rw [htick]
    exact hall live.inFlight tick
  intro flights
  induction flights with
  | nil =>
      intro first
      exact ⟨first, rfl, Nat.le_refl first, by simp, Or.inl rfl⟩
  | cons flight rest ih =>
      intro first
      obtain ⟨next, hfold, hle, hrest, hattained⟩ := ih (min first flight.dueMs)
      refine ⟨next, hfold, Nat.le_trans hle (Nat.min_le_left ..), ?_, ?_⟩
      · intro other hmem
        rcases List.mem_cons.mp hmem with rfl | hlater
        · exact Nat.le_trans hle (Nat.min_le_right ..)
        · exact hrest other hlater
      · rcases hattained with hfirst | ⟨other, hmem, hother⟩
        · rcases Nat.le_total first flight.dueMs with hearlier | hearlier
          · exact Or.inl (hfirst.trans (Nat.min_eq_left hearlier))
          · exact Or.inr ⟨flight, List.mem_cons_self,
              hfirst.trans (Nat.min_eq_right hearlier)⟩
        · exact Or.inr ⟨other, List.mem_cons_of_mem _ hmem, hother⟩

/-- A loop that has nothing left to do is idle until something is due, which is later. -/
theorem IdleUntil.next (h : live.IdleUntil (now + 1)) {tick : Nat}
    (htick : live.nextTick = some tick) :
    ∃ next, live.nextDue = some next ∧ now < next ∧ live.IdleUntil next := by
  obtain ⟨next, hnext, hle, harrivals, hattained⟩ := nextDue_spec htick
  refine ⟨next, hnext, ?_, h.commands, ?_, harrivals⟩
  · rcases hattained with rfl | ⟨flight, hmem, rfl⟩
    · exact h.tick _ htick
    · exact h.arrivals flight hmem
  · intro other hother
    obtain rfl := Option.some.inj (htick.symm.trans hother)
    exact hle

theorem IdleUntil.mono {earlier later : Nat} (h : live.IdleUntil later) (hle : earlier ≤ later) :
    live.IdleUntil earlier where
  commands := h.commands
  tick next hnext := Nat.le_trans hle (h.tick next hnext)
  arrivals flight hmem := Nat.le_trans hle (h.arrivals flight hmem)

/-- A loop that has begun does not begin again. -/
theorem begin_begun (now : Nat) {tick : Nat} (htick : acting.1.nextTick = some tick) :
    begin now acting = acting := by
  unfold begin
  rw [htick]

theorem Rehearsed.nextTick_eq (h : Rehearsed monitor settings asked begun now acting) :
    ∃ tick, acting.1.nextTick = some tick := by
  obtain ⟨history, htimeline, _⟩ := h
  exact ⟨_, htimeline.onSchedule.nextTick_eq⟩

theorem Rehearsed.passes {later : Nat} (h : Rehearsed monitor settings asked begun now acting)
    (hle : now ≤ later) (hidle : acting.1.IdleUntil later) :
    Rehearsed monitor settings asked begun later acting := by
  obtain ⟨history, htimeline, hasked⟩ := h
  exact ⟨history, htimeline.passes hle hidle, hasked⟩

/-- Time jumps along the timeline, and not beyond where it is to stop; short of that only if the
operator has what was waited for. -/
theorem Rehearsed.advance (hinterval : 0 < settings.intervalMs)
    (done : OnStage P V C → Bool) {stop : Nat} (hle : now ≤ stop)
    (h : Rehearsed monitor settings asked begun now acting) (hidle : acting.1.IdleUntil (now + 1)) :
    ∃ reached after, Clock.advance (fun acting => nextDue acting.1) LiveLoop.runAt done stop now
        acting = (reached, after) ∧
      Rehearsed monitor settings asked begun reached after ∧ after.1.IdleUntil (reached + 1) ∧
      now ≤ reached ∧ reached ≤ stop ∧ (done after = false → reached = stop) := by
  fun_induction Clock.advance (fun acting : OnStage P V C => nextDue acting.1) LiveLoop.runAt done
    stop now acting with
  | case1 now acting hdone =>
      refine ⟨now, acting, rfl, h, hidle, Nat.le_refl now, hle, ?_⟩
      intro hnot
      exact absurd hdone (by simp [hnot])
  | case2 now acting hdone hnone =>
      -- a loop that has begun always has a next tick
      obtain ⟨tick, htick⟩ := h.nextTick_eq
      obtain ⟨next, hnext, _⟩ := hidle.next htick
      exact absurd (hnone.symm.trans hnext) (by simp)
  | case3 now acting hdone next hnext hwithin ih =>
      obtain ⟨hlater, hstop⟩ := hwithin
      obtain ⟨tick, htick⟩ := h.nextTick_eq
      obtain ⟨_, hsame, _, hidleNext⟩ := hidle.next htick
      obtain rfl := Option.some.inj (hnext.symm.trans hsame)
      have hbegun : Rehearsed monitor settings asked begun next (begin next acting) := by
        rw [begin_begun next htick]
        exact h.passes (Nat.le_of_lt hlater) hidleNext
      obtain ⟨reached, after, hadvance, hreached, hidleAfter, hfrom, hto, hdone⟩ :=
        ih hstop hbegun.runAt (hbegun.idle_runAt hinterval)
      exact ⟨reached, after, hadvance, hreached, hidleAfter,
        Nat.le_trans (Nat.le_of_lt hlater) hfrom, hto, hdone⟩
  | case4 now acting hdone next hnext hbeyond =>
      -- nothing more is due before the time is up
      obtain ⟨tick, htick⟩ := h.nextTick_eq
      obtain ⟨_, hsame, hlater, hidleNext⟩ := hidle.next htick
      obtain rfl := Option.some.inj (hnext.symm.trans hsame)
      have hstop : stop + 1 ≤ next := by
        by_contra hnot
        exact hbeyond ⟨hlater, by omega⟩
      exact ⟨stop, acting, rfl, h.passes hle (hidleNext.mono (Nat.le_of_succ_le hstop)),
        hidleNext.mono hstop, hle, Nat.le_refl stop, fun _ => rfl⟩

end LiveLoop

end NfsWatch
