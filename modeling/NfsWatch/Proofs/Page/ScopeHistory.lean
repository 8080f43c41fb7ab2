import NfsWatch.Page.Clients
import NfsWatch.Proofs.Page.Scope
import NfsWatch.Proofs.Poll.Driven

/-!
# A scope forgets its past

A history lists what happened to a scope, oldest first: where it was pointed, what happened to its
loop, and which responses came in for loops that were discarded. Of all that only the stretch since
the scope last moved counts. The loop that it holds is one that was spawned then and that only what
happened since has driven: what it issued, what it was answered and what the operator sent it are
its own, however many loops went before it. They do nothing any more: what they have left is what
they had on their way when the scope moved, less what was answered since (`Run.leaves`).
-/

namespace NfsWatch.Scope

variable {K P V C : Type}

/-! ## Histories -/

/-- What the owner points a scope at, and how a loop for it is set up. -/
structure Pointing (K P V C : Type) where
  target : Option K
  make : K → Monitor P V C
  settings : PollSettings

/-- The loop for a target. -/
def Pointing.spawn (pointing : Pointing K P V C) (key : K) : LiveLoop P V C :=
  .spawn (pointing.make key) pointing.settings

/-- What may happen to a scope. -/
inductive Happening (K P V C : Type)
  | pointed (pointing : Pointing K P V C)
  /-- Something happens to its loop. -/
  | own (happening : LiveLoop.Happening C)
  /-- The response comes in to a request of a loop that was discarded. -/
  | late (flight : InFlight)

/-- What happens to the loop of the scope. -/
def Happening.own? : Happening K P V C → Option (LiveLoop.Happening C)
  | own happening => some happening
  | _ => none

/-- The request that is answered to a loop that was discarded. -/
def Happening.late? : Happening K P V C → Option InFlight
  | late flight => some flight
  | _ => none

/-- What is issued, by whichever loop. -/
def Happening.issued : Happening K P V C → List InFlight
  | own happening => happening.issued
  | _ => []

/-- What happened since a scope last moved, and the pointing that moved it; a scope that was never
moved has had no target so far. -/
structure Stretch (K P V C : Type) where
  pointing : Option (Pointing K P V C)
  since : List (Happening K P V C)

namespace Stretch

/-- Where the scope was moved. -/
def target (stretch : Stretch K P V C) : Option K := stretch.pointing.bind Pointing.target

/-- What happened to the loop of the scope. -/
def driving (stretch : Stretch K P V C) : List (LiveLoop.Happening C) :=
  stretch.since.filterMap Happening.own?

/-- What was answered to loops that were discarded. -/
def lates (stretch : Stretch K P V C) : List InFlight := stretch.since.filterMap Happening.late?

/-- All that was issued since was issued by the loop of the scope. -/
theorem issued_driving (stretch : Stretch K P V C) :
    stretch.since.flatMap Happening.issued =
      stretch.driving.flatMap LiveLoop.Happening.issued := by
  unfold driving
  induction stretch.since with
  | nil => rfl
  | cons happening rest ih =>
      cases happening with
      | own happening => exact congrArg (happening.issued ++ ·) ih
      | pointed pointing => exact ih
      | late flight => exact ih

end Stretch

section stretch

variable [DecidableEq K]

/-- A pointing somewhere else begins a new stretch; anything else goes on with the old one. -/
def Stretch.record (stretch : Stretch K P V C) (happening : Happening K P V C) : Stretch K P V C :=
  match happening with
  | .pointed pointing =>
      if stretch.target = pointing.target then ⟨stretch.pointing, stretch.since ++ [happening]⟩
      else ⟨some pointing, []⟩
  | _ => ⟨stretch.pointing, stretch.since ++ [happening]⟩

variable {pointing : Pointing K P V C}

theorem Stretch.record_stays {stretch : Stretch K P V C} (h : stretch.target = pointing.target) :
    stretch.record (.pointed pointing) =
      ⟨stretch.pointing, stretch.since ++ [.pointed pointing]⟩ := if_pos h

theorem Stretch.record_moves {stretch : Stretch K P V C} (h : stretch.target ≠ pointing.target) :
    stretch.record (.pointed pointing) = ⟨some pointing, []⟩ := if_neg h

theorem Stretch.record_cases (stretch : Stretch K P V C) (happening : Happening K P V C) :
    (stretch.record happening = ⟨stretch.pointing, stretch.since ++ [happening]⟩ ∧
      ∀ pointing, happening = .pointed pointing → pointing.target = stretch.target) ∨
    ∃ pointing, happening = .pointed pointing ∧ stretch.target ≠ pointing.target ∧
      stretch.record happening = ⟨some pointing, []⟩ := by
  cases happening with
  | pointed pointing =>
      by_cases hsame : stretch.target = pointing.target
      · refine Or.inl ⟨record_stays hsame, ?_⟩
        rintro _ ⟨⟩
        exact hsame.symm
      · exact Or.inr ⟨pointing, rfl, hsame, record_moves hsame⟩
  | _ => exact Or.inl ⟨rfl, fun pointing hpointed => nomatch hpointed⟩

/-- The latest stretch of a history. -/
def stretch (history : List (Happening K P V C)) : Stretch K P V C :=
  history.foldl Stretch.record ⟨none, []⟩

theorem stretch_concat (history : List (Happening K P V C)) (happening : Happening K P V C) :
    stretch (history ++ [happening]) = (stretch history).record happening := by
  unfold stretch
  rw [List.foldl_append]
  rfl

/-- The latest stretch is the end of the history, after the last pointing that was not to where the
scope was already. -/
theorem stretch_split {history : List (Happening K P V C)}
    (h : (stretch history).pointing = some pointing) :
    ∃ before, history = before ++ .pointed pointing :: (stretch history).since ∧
      (stretch before).target ≠ pointing.target ∧
      ∀ other, .pointed other ∈ (stretch history).since → other.target = pointing.target := by
  induction history using List.reverseRecOn with
  | nil => exact nomatch h
  | append_singleton history happening ih =>
      rw [stretch_concat] at h ⊢
      rcases (stretch history).record_cases happening with
        ⟨hrecord, hstays⟩ | ⟨moved, rfl, hmoves, hrecord⟩
      · rw [hrecord] at h ⊢
        have hpointing : (stretch history).pointing = some pointing := h
        obtain ⟨before, hsplit, hmoved, hothers⟩ := ih hpointing
        refine ⟨before, ?_, hmoved, ?_⟩
        · nth_rewrite 1 [hsplit]
          simp
        · intro other hmem
          rcases List.mem_append.mp hmem with hold | hnew
          · exact hothers other hold
          · rw [hstays other (List.mem_singleton.mp hnew).symm]
            simp [Stretch.target, hpointing]
      · rw [hrecord] at h ⊢
        obtain rfl := Option.some.inj h
        exact ⟨history, rfl, hmoves, fun other hmem => nomatch hmem⟩

end stretch

/-! ## Runs -/

/-- The requests that the loop of a scope has on their way. -/
def inFlight (scope : Scope K P V C) : List InFlight := scope.live.elim [] LiveLoop.inFlight

/-- What a scope holds is what the latest stretch of its history has driven, and nothing happened in
a stretch without target. -/
structure Remembers (stretch : Stretch K P V C) (scope : Scope K P V C) : Prop where
  target_eq : scope.target = stretch.target
  idle : scope.current = none → stretch.driving = []
  driven : ∀ key live, scope.current = some (key, live) → ∃ pointing,
    stretch.pointing = some pointing ∧
      live.Driven (pointing.make key) pointing.settings stretch.driving

/-- The loop goes on, in the same stretch. -/
theorem Remembers.running {stretch : Stretch K P V C} {key : K} {live after : LiveLoop P V C}
    {since : List (Happening K P V C)} (h : Remembers stretch ⟨some (key, live)⟩)
    (hgoes : ∀ {monitor settings}, live.Driven monitor settings stretch.driving →
      after.Driven monitor settings (since.filterMap Happening.own?)) :
    Remembers ⟨stretch.pointing, since⟩ ⟨some (key, after)⟩ where
  target_eq := h.target_eq
  idle := by
    intro hnone
    exact nomatch hnone
  driven := by
    intro picked current hcurrent
    obtain ⟨rfl, rfl⟩ := Prod.mk.inj (Option.some.inj hcurrent)
    obtain ⟨pointing, hpointing, hdriven⟩ := h.driven _ _ rfl
    exact ⟨pointing, hpointing, hgoes hdriven⟩

/-- What happens without the loop leaves it alone. -/
theorem Remembers.aside {stretch : Stretch K P V C} {scope : Scope K P V C}
    (h : Remembers stretch scope) {happening : Happening K P V C} (hown : happening.own? = none) :
    Remembers ⟨stretch.pointing, stretch.since ++ [happening]⟩ scope := by
  have hdriving : (⟨stretch.pointing, stretch.since ++ [happening]⟩ : Stretch K P V C).driving =
      stretch.driving := by simp [Stretch.driving, hown]
  refine ⟨h.target_eq, ?_, ?_⟩
  · rw [hdriving]
    exact h.idle
  · rw [hdriving]
    exact h.driven

section runs

variable [DecidableEq K]

/-- Pointed anew, a scope remembers nothing, or all that it did before. -/
theorem Remembers.pointed {stretch : Stretch K P V C} {scope : Scope K P V C}
    (h : Remembers stretch scope) (pointing : Pointing K P V C) :
    Remembers (stretch.record (.pointed pointing))
      (scope.retarget pointing.target pointing.spawn).1 := by
  by_cases hsame : scope.target = pointing.target
  · rw [retarget_same hsame, Stretch.record_stays (h.target_eq.symm.trans hsame)]
    exact h.aside rfl
  · -- the new stretch is empty, and the loop, if there is one, was spawned just now
    rw [Stretch.record_moves (h.target_eq ▸ hsame)]
    refine ⟨retarget_target .., fun _ => rfl, ?_⟩
    intro key live hcurrent
    rw [retarget_other hsame] at hcurrent
    obtain ⟨picked, _, heq⟩ := Option.map_eq_some_iff.mp hcurrent
    obtain ⟨rfl, rfl⟩ := Prod.mk.inj heq
    exact ⟨pointing, rfl, LiveLoop.driven_spawn _ _⟩

/-- The history so far, the scope that it leads to, and the requests on their way of all loops that
were discarded. -/
inductive Run : List (Happening K P V C) → Scope K P V C → List InFlight → Prop
  | start : Run [] .empty []
  /-- The owner points the scope somewhere, where it may be already. -/
  | stays {history : List (Happening K P V C)} {scope : Scope K P V C} {abandoned : List InFlight}
      {pointing : Pointing K P V C} :
      Run history scope abandoned → (scope.retarget pointing.target pointing.spawn).2 = false →
      Run (history ++ [.pointed pointing]) (scope.retarget pointing.target pointing.spawn).1
        abandoned
  /-- Or it moves, and leaves behind what its loop had on its way. -/
  | moves {history : List (Happening K P V C)} {scope : Scope K P V C} {abandoned : List InFlight}
      {pointing : Pointing K P V C} :
      Run history scope abandoned → (scope.retarget pointing.target pointing.spawn).2 = true →
      Run (history ++ [.pointed pointing]) (scope.retarget pointing.target pointing.spawn).1
        (abandoned ++ scope.inFlight)
  /-- Something happens to its loop. -/
  | takes {history : List (Happening K P V C)} {key : K} {live after : LiveLoop P V C}
      {abandoned : List InFlight} {happening : LiveLoop.Happening C} :
      Run history ⟨some (key, live)⟩ abandoned → live.Takes happening after →
      Run (history ++ [.own happening]) ⟨some (key, after)⟩ abandoned
  /-- The clock of its loop is set, or the owner takes note of notifications. -/
  | quiet {history : List (Happening K P V C)} {key : K} {live : LiveLoop P V C}
      {abandoned : List InFlight} (nextTick : Option Nat) (seen : Nat) :
      Run history ⟨some (key, live)⟩ abandoned →
      Run history ⟨some (key, { live with nextTick, seen })⟩ abandoned
  /-- A request of a loop that was discarded is answered. -/
  | late {history : List (Happening K P V C)} {scope : Scope K P V C}
      {earlier later : List InFlight} {flight : InFlight} :
      Run history scope (earlier ++ flight :: later) →
      Run (history ++ [.late flight]) scope (earlier ++ later)

variable {history : List (Happening K P V C)} {scope : Scope K P V C} {abandoned : List InFlight}

theorem Run.remembers (h : Run history scope abandoned) : Remembers (stretch history) scope := by
  induction h with
  | start => exact ⟨rfl, fun _ => rfl, fun key live hcurrent => nomatch hcurrent⟩
  | stays _ _ ih =>
      rw [stretch_concat]
      exact ih.pointed _
  | moves _ _ ih =>
      rw [stretch_concat]
      exact ih.pointed _
  | @takes history key live after abandoned happening _ htakes ih =>
      rw [stretch_concat]
      refine ih.running ?_
      intro monitor settings hdriven
      have hdriving :
          ((stretch history).since ++ [Happening.own happening]).filterMap Happening.own? =
            (stretch history).driving ++ [happening] := by simp [Stretch.driving, Happening.own?]
      rw [hdriving]
      exact hdriven.takes htakes
  | quiet nextTick seen _ ih => exact ih.running fun hdriven => hdriven.quiet nextTick seen
  | late _ ih =>
      rw [stretch_concat]
      exact ih.aside rfl

/-- Loops that were discarded do nothing: what they have on their way they had on their way when the
scope last moved, and the rest of that was answered since. -/
structure Leaves (history : List (Happening K P V C)) (abandoned : List InFlight) : Prop where
  nothing : (stretch history).pointing = none → abandoned = []
  less : ∀ pointing, (stretch history).pointing = some pointing → ∃ before left leftovers,
    history = before ++ .pointed pointing :: (stretch history).since ∧
      Run before left leftovers ∧
      ((stretch history).lates ++ abandoned).Perm (leftovers ++ left.inFlight)

/-- In the same stretch an answer takes away from what is left, and nothing adds to it. -/
theorem Leaves.goes {remaining : List InFlight} {happening : Happening K P V C}
    (h : Leaves history abandoned)
    (hgoes : (stretch history).record happening =
      ⟨(stretch history).pointing, (stretch history).since ++ [happening]⟩)
    (htakes : (happening.late?.toList ++ remaining).Perm abandoned) :
    Leaves (history ++ [happening]) remaining := by
  have hstretch := (stretch_concat history happening).trans hgoes
  constructor
  · intro hnone
    rw [hstretch] at hnone
    rw [h.nothing hnone] at htakes
    exact (List.append_eq_nil_iff.mp htakes.eq_nil).2
  · intro pointing hpointing
    rw [hstretch] at hpointing ⊢
    obtain ⟨before, left, leftovers, hsplit, hrun, hperm⟩ := h.less pointing hpointing
    refine ⟨before, left, leftovers, ?_, hrun, ?_⟩
    · nth_rewrite 1 [hsplit]
      rw [List.append_assoc, List.cons_append]
    · have hlates : Stretch.lates
          ⟨(stretch history).pointing, (stretch history).since ++ [happening]⟩ =
            (stretch history).lates ++ happening.late?.toList :=
        LiveLoop.filterMap_concat ..
      rw [hlates, List.append_assoc]
      exact (htakes.append_left _).trans hperm

theorem Run.leaves (h : Run history scope abandoned) : Leaves history abandoned := by
  induction h with
  | start => exact ⟨fun _ => rfl, fun pointing hnone => nomatch hnone⟩
  | @stays history scope abandoned pointing hrun hstays ih =>
      have hsame : (stretch history).target = pointing.target := by
        rw [← Bool.not_eq_true, retarget_moved_iff, not_not] at hstays
        exact hrun.remembers.target_eq.symm.trans hstays
      exact ih.goes (Stretch.record_stays hsame) (List.Perm.refl _)
  | @moves history scope abandoned pointing hrun hmoves ih =>
      have hother : (stretch history).target ≠ pointing.target :=
        hrun.remembers.target_eq ▸ retarget_moved_iff.mp hmoves
      have hstretch := (stretch_concat history _).trans (Stretch.record_moves hother)
      constructor
      · intro hnone
        rw [hstretch] at hnone
        exact nomatch hnone
      · intro moved hmoved
        rw [hstretch] at hmoved ⊢
        obtain rfl := Option.some.inj hmoved
        -- the run before this move is the one at hand
        exact ⟨history, scope, abandoned, rfl, hrun, List.Perm.refl _⟩
  | takes _ _ ih => exact ih.goes rfl (List.Perm.refl _)
  | quiet _ _ _ ih => exact ih
  | @late history scope earlier later flight _ ih =>
      have htakes : (flight :: (earlier ++ later)).Perm (earlier ++ flight :: later) :=
        List.perm_middle.symm
      exact ih.goes rfl htakes

/-- Every move of the loop of a scope belongs to a run. -/
theorem Run.moves_loop {after : Scope K P V C} (h : Run history scope abandoned)
    (hmoves : scope.Moves after) : ∃ history', Run history' after abandoned := by
  obtain ⟨current⟩ := scope
  cases hmoves with
  | @loop key live next hcurrent hmoves =>
      subst hcurrent
      rcases hmoves.takes with ⟨happening, htakes⟩ | ⟨nextTick, rfl⟩
      · exact ⟨_, h.takes htakes⟩
      · exact ⟨_, h.quiet nextTick live.seen⟩

/-- Pointed where it is, a scope stays as it is; pointed elsewhere, it begins a new loop. And at any
time the loop that it holds has been driven by nothing but what happened since the scope last
moved: it shows, counts and numbers what a loop that was spawned then shows, counts and numbers
after these events, everything that was issued since are its requests, and every response and all
input that it took answered a request issued since or was queued since. Without a target nothing
happens. Loops that were discarded issue nothing any more and are left with less and less. -/
theorem scope_forgets {history : List (Happening K P V C)} {scope : Scope K P V C}
    {abandoned : List InFlight} (run : Run history scope abandoned) :
    (∀ pointing : Pointing K P V C, scope.target = pointing.target →
      scope.retarget pointing.target pointing.spawn = (scope, false)) ∧
    (∀ pointing : Pointing K P V C, scope.target ≠ pointing.target →
      scope.retarget pointing.target pointing.spawn =
        (⟨pointing.target.map fun key => (key, pointing.spawn key)⟩, true)) ∧
    (scope.current = none → (stretch history).driving = []) ∧
    (∀ key live, scope.current = some (key, live) → ∃ before pointing,
      history = before ++ .pointed pointing :: (stretch history).since ∧
      pointing.target = some key ∧ (stretch before).target ≠ some key ∧
      (∀ other, .pointed other ∈ (stretch history).since → other.target = some key) ∧
      live.Driven (pointing.make key) pointing.settings (stretch history).driving) ∧
    (stretch history).since.flatMap Happening.issued =
      (stretch history).driving.flatMap LiveLoop.Happening.issued ∧
    Leaves history abandoned := by
  have hremembers := run.remembers
  refine ⟨?_, ?_, ?_, ?_, (stretch history).issued_driving, run.leaves⟩
  · intro pointing hsame
    exact retarget_same hsame pointing.spawn
  · intro pointing hother
    exact retarget_other hother pointing.spawn
  · intro hnone
    exact hremembers.idle hnone
  · intro key live hcurrent
    obtain ⟨pointing, hpointing, hdriven⟩ := hremembers.driven key live hcurrent
    obtain ⟨before, hsplit, hmoved, hothers⟩ := stretch_split hpointing
    -- what moved the scope last is what it follows now
    have htarget := hremembers.target_eq
    simp only [target, hcurrent, Stretch.target, hpointing] at htarget
    change some key = pointing.target at htarget
    rw [← htarget] at hmoved hothers
    exact ⟨before, pointing, hsplit, htarget.symm, hmoved, hothers, hdriven⟩

end runs

/-- A summary of one client or another. -/
def summaryOf (client : String) :
    Pointing String ClientDetail ClientSummary.View ClientSummary.Command :=
  ⟨some client, ClientSummary.monitor, .standard⟩

/-- The request of the first tick for a client, and a response to it. -/
def firstRequest (client : String) (sessions : List String) : InFlight :=
  ⟨0, .primary 1 (.client client), .ok (.obj [("sessions", .strings sessions)])⟩

/-- The scope moves from `a` to `b` and back, and each loop asks for its client. Only then the first
loop is answered. -/
def thereAndBack : List (Happening String ClientDetail ClientSummary.View ClientSummary.Command) :=
  [.pointed (summaryOf "a"), .own (.ticked [firstRequest "a" ["old"]]),
    .pointed (summaryOf "b"), .own (.ticked [firstRequest "b" []]),
    .pointed (summaryOf "a"), .own (.ticked [firstRequest "a" ["new"]]),
    .late (firstRequest "a" ["old"])]

/-- The loop of the scope once it has ticked. -/
def asking (client : String) (sessions : List String) : ClientSummary.Scoped :=
  ⟨some (client, { (((summaryOf client).spawn client).handle .tick).1 with
    inFlight := [firstRequest client sessions] })⟩

theorem Run.asks {history : List (Happening String ClientDetail ClientSummary.View
      ClientSummary.Command)} {scope : ClientSummary.Scoped} {abandoned : List InFlight}
    (h : Run history scope abandoned) (client : String) (sessions : List String)
    (hother : scope.target ≠ some client) :
    Run (history ++ [.pointed (summaryOf client)] ++
        [.own (.ticked [firstRequest client sessions])])
      (asking client sessions) (abandoned ++ scope.inFlight) := by
  have hmoves : scope.retarget (summaryOf client).target (summaryOf client).spawn =
      (⟨some (client, (summaryOf client).spawn client)⟩, true) :=
    retarget_other hother (summaryOf client).spawn
  have hmoved := h.moves (congrArg Prod.snd hmoves)
  rw [hmoves] at hmoved
  exact hmoved.takes (.ticked rfl)

theorem thereAndBack_run : Run thereAndBack (asking "a" ["new"]) [firstRequest "b" []] := by
  have hfirst := Run.start.asks "a" ["old"] (by decide)
  have hsecond := hfirst.asks "b" [] (by decide)
  have hthird := hsecond.asks "a" ["new"] (by decide)
  exact @Run.late _ _ _ _ _ _ _ [] [firstRequest "b" []] _ hthird

/-- It was for the same client and the same tick as the request of the second loop, which is still
waiting for its first response. -/
theorem late_response_stays_unseen :
    Run thereAndBack (asking "a" ["new"]) [firstRequest "b" []] ∧
      ∃ live, (asking "a" ["new"]).current = some ("a", live) ∧
        live.inFlight = [firstRequest "a" ["new"]] ∧
        live.feed = ⟨.start "a", .start⟩ ∧ live.state.sequencer = ⟨.ordered, 1, none⟩ := by
  have hrun := thereAndBack_run
  obtain ⟨_, _, _, hlive, _⟩ := scope_forgets hrun
  obtain ⟨before, pointing, _, _, _, _, hdriven⟩ := hlive "a" _ rfl
  have hstate := hdriven.state_eq
  rw [← hdriven.monitor_eq, ← hdriven.settings_eq] at hstate
  have hevents : LiveLoop.events (stretch thereAndBack).driving = [.tick] := rfl
  rw [hevents] at hstate
  refine ⟨hrun, _, rfl, rfl, ?_, ?_⟩
  · exact congrArg PollLoop.feed hstate
  · exact congrArg PollLoop.sequencer hstate

end NfsWatch.Scope
