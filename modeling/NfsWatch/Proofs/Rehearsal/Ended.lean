import NfsWatch.Proofs.Rehearsal.Loop

/-!
# How a cancelled loop ends

A loop that is told to stop meets the request among all that is ready at that instant, in no
particular order. So it may tick, take responses and handle input before it stops, all of it along
its timeline (`Ready.ends`). Once it has stopped nothing more is asked and what it showed last stays
(`after_ended`), whichever of its ends it came to.
-/

namespace NfsWatch

namespace LiveLoop

variable {P V C : Type} {monitor : Monitor P V C} {settings : PollSettings} {asked : List Endpoint}
  {now : Nat}

/-- A loop that is told to stop comes to this end, and leaves the stage so. -/
inductive Ends (now : Nat) : OnStage P V C → OnStage P V C → Prop
  | stops (acting : OnStage P V C) : Ends now acting (acting.1, stop now acting)
  | serves {acting served last : OnStage P V C} :
      Serves now (begin now acting) served → Ends now served last → Ends now acting last

theorem Ready.ends {acting last : OnStage P V C}
    (h : Ready monitor settings asked now acting.1 acting.2) (hends : Ends now acting last) :
    Ready monitor settings asked now last.1 last.2 := by
  induction hends with
  | stops acting => exact h.congr (congrArg Script.requests (stop_script now acting))
  | serves hserves _ ih => exact ih (h.begin.serves hserves).ready

/-- Even a loop that never ran may tick once before it stops. -/
theorem ends_after_tick (monitor : Monitor P V C) (settings : PollSettings) (now : Nat)
    (stage : Stage) :
    ∃ last, Ends now (spawn monitor settings, stage) last ∧
      last.2.script.requests = stage.script.requests ++ [monitor.endpoint] := by
  have hready : (begin now (spawn monitor settings, stage)).1.nextTick = some now := rfl
  have hserves := Serves.ticked hready (Nat.le_refl now)
  refine ⟨_, .serves hserves (.stops _), ?_⟩
  rw [stop_script]
  exact (fetched_spec now _ _ .tick).2.2

end LiveLoop

namespace Rehearsal.LoopSession

variable {P V C : Type} {session : LoopSession P V C} {live : LiveLoop P V C}

/-- The rehearsed loop comes to the end that is nearest. -/
theorem act_cancel (hlive : session.live = some live) :
    ∃ last, LiveLoop.Ends session.now (live, session.stage) last ∧
      (session.act .cancel).1 = session.ended last.1 last.2 := by
  refine ⟨_, .stops (live, session.stage), ?_⟩
  simp only [act, hlive]

theorem after_ended (last : LiveLoop.OnStage P V C) (rest : List (LoopStep C)) :
    ((session.ended last.1 last.2).after rest).feed = last.1.feed ∧
      ((session.ended last.1 last.2).after rest).stage.script = last.2.script :=
  after_gone rfl rest

end Rehearsal.LoopSession

end NfsWatch
