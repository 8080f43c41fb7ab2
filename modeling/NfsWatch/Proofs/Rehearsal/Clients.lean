import NfsWatch.Proofs.Page.Follow
import NfsWatch.Proofs.Rehearsal.Served
import NfsWatch.Rehearsal.ClientsSession

/-!
# The rehearsed clients page

A rehearsal runs the loops of the page in a fixed order, lets the page take note of all
notifications in rounds, and jumps from one due instant to the next. All of that is made of what may
happen to a page, so every page that a rehearsal comes to is one that the page can come to
(`reachable_after`), and its scopes follow what is picked.
-/

namespace NfsWatch

open Relation (ReflTransGen)

/-! ## Loops -/

namespace LiveLoop

variable {P V C : Type}

theorem performs_perform (now : Nat) (live : LiveLoop P V C) (stage : Stage) (event : Event C) :
    live.Performs event (perform now (live, stage) event).1 :=
  ⟨_, (fetched_spec now live stage event).1, rfl⟩

theorem Serves.moves {now : Nat} {acting after : OnStage P V C} (h : Serves now acting after) :
    ReflTransGen Moves acting.1 after.1 := by
  cases h with
  | ticked _ _ =>
      -- the clock is set before it ticks
      exact .tail (.single (.clock acting.1 _)) (.tick (performs_perform ..))
  | answered hflight _ => exact .single (.answered hflight (performs_perform ..))
  | handled hcommands => exact .single (.handled hcommands (performs_perform ..))

theorem moves_begin (now : Nat) (acting : OnStage P V C) :
    ReflTransGen Moves acting.1 (begin now acting).1 := by
  unfold begin
  split
  · exact .refl
  · exact .single (.clock acting.1 (some now))

theorem moves_runAt (now : Nat) (acting : OnStage P V C) :
    ReflTransGen Moves acting.1 (runAt now acting).1 := by
  have hserved := served_runAt now acting
  refine (moves_begin now acting).trans ?_
  generalize runAt now acting = after at hserved ⊢
  induction hserved with
  | refl => exact .refl
  | tail _ hserves ih => exact ih.trans hserves.moves

end LiveLoop

theorem Scope.moves_runAt {K P V C : Type} (now : Nat) (scope : Scope K P V C) (stage : Stage) :
    ReflTransGen Moves scope (scope.runAt now stage).1 := by
  obtain ⟨current⟩ := scope
  cases current with
  | none => exact .refl
  | some entry =>
      have hmoves := LiveLoop.moves_runAt now (entry.2, stage)
      show ReflTransGen Moves _ ⟨some (entry.1, (LiveLoop.runAt now (entry.2, stage)).1)⟩
      generalize (LiveLoop.runAt now (entry.2, stage)).1 = after at hmoves ⊢
      induction hmoves with
      | refl => exact .refl
      | tail _ hmoves ih => exact ih.tail (.loop rfl hmoves)

namespace ClientsPage

/-! ## The loops of the page -/

variable {page : ClientsPage}

theorem waits_clients {after : ClientList.Live}
    (h : ReflTransGen LiveLoop.Moves page.clients after) :
    Waits page { page with clients := after } := by
  induction h with
  | refl => exact .refl
  | tail _ hmoves ih => exact ih.tail (.clients hmoves)

theorem waits_summary {after : ClientSummary.Scoped}
    (h : ReflTransGen Scope.Moves page.summary after) :
    Waits page { page with summary := after } := by
  induction h with
  | refl => exact .refl
  | tail _ hmoves ih => exact ih.tail (.summary hmoves)

theorem waits_state (kind : StateKind) {after : StateSummary.Scoped}
    (h : ReflTransGen Scope.Moves (page.state kind) after) :
    Waits page (page.withState kind after) := by
  induction h with
  | refl =>
      rw [withState_self]
      exact .refl
  | @tail between after _ hmoves ih =>
      have hloop : ((page.withState kind between).state kind).Moves after := by
        rw [state_withState, if_pos rfl]
        exact hmoves
      have hagain : (page.withState kind between).withState kind after =
          page.withState kind after := by cases kind <;> rfl
      exact hagain ▸ ih.tail (.state kind hloop)

theorem Reachable.waits {settings : PollSettings} {after : ClientsPage}
    (h : Reachable settings page) (hwaits : Waits page after) : Reachable settings after := by
  induction hwaits with
  | refl => exact h
  | tail _ hmoves ih => exact ih.step (.moves hmoves)

end ClientsPage

/-- What the world keeps as it runs at one instant it keeps from instant to instant. -/
theorem Clock.advance_keeps {W : Type} {keeps : W → Prop} {due : W → Option Nat}
    {run : Nat → W → W} {done : W → Bool} (hrun : ∀ now world, keeps world → keeps (run now world))
    (stop now : Nat) {world : W} (h : keeps world) :
    keeps (advance due run done stop now world).2 := by
  fun_induction advance due run done stop now world with
  | case1 => exact h
  | case2 => exact h
  | case3 now world _ next _ _ ih => exact ih (hrun next world h)
  | case4 => exact h

namespace Rehearsal.ClientsSession

open ClientsPage

variable {settings : PollSettings} {now : Nat} {acting : Acting}

theorem waits_runLoops (now : Nat) (acting : Acting) : Waits acting.1 (runLoops now acting).1 := by
  obtain ⟨page, stage⟩ := acting
  unfold runLoops
  dsimp only
  have hclients := LiveLoop.moves_runAt now (page.clients, stage)
  generalize LiveLoop.runAt now (page.clients, stage) = clients at hclients ⊢
  have hsummary := Scope.moves_runAt now page.summary clients.2
  generalize page.summary.runAt now clients.2 = summary at hsummary ⊢
  have hopens := Scope.moves_runAt now page.opens summary.2
  generalize page.opens.runAt now summary.2 = opens at hopens ⊢
  have hdelegations := Scope.moves_runAt now page.delegations opens.2
  generalize page.delegations.runAt now opens.2 = delegations at hdelegations ⊢
  have hlayouts := Scope.moves_runAt now page.layouts delegations.2
  generalize page.layouts.runAt now delegations.2 = layouts at hlayouts ⊢
  -- each loop runs on a page on which those before it have run
  let first := { page with clients := clients.1 }
  let second := { first with summary := summary.1 }
  let third := { second with opens := opens.1 }
  let fourth := { third with delegations := delegations.1 }
  have hfirst : Waits page first := waits_clients hclients
  have hsecond : Waits first second := @waits_summary first _ hsummary
  have hthird : Waits second third := @waits_state second .opens _ hopens
  have hfourth : Waits third fourth := @waits_state third .delegations _ hdelegations
  have hlast : Waits fourth { fourth with layouts := layouts.1 } :=
    @waits_state fourth .layouts _ hlayouts
  exact hfirst.trans (hsecond.trans (hthird.trans (hfourth.trans hlast)))

theorem reachable_runLoops (now : Nat) (acting : Acting) (h : Reachable settings acting.1) :
    Reachable settings (runLoops now acting).1 :=
  h.waits (waits_runLoops now acting)

theorem react_page (acting : Acting) : (react acting).1 = acting.1.reactAll.1 := rfl

/-- However many rounds it takes until nothing is left to do. -/
theorem reachable_runAt (now : Nat) (acting : Acting) (h : Reachable settings acting.1) :
    Reachable settings (runAt now acting).1 := by
  unfold runAt
  generalize 3 = rounds
  induction rounds with
  | zero => exact h
  | succ rounds ih =>
      rw [Nat.repeat, react_page]
      exact (reachable_runLoops now _ ih).reactAll

/-! ## Sessions -/

/-- The page of a session, while it is open, is one that a page can come to. -/
def Kept (settings : PollSettings) (session : ClientsSession) : Prop :=
  ∀ page ∈ session.page, Reachable settings page

theorem kept_of_page {session : ClientsSession} {page : ClientsPage}
    (hpage : session.page = some page) (h : Reachable settings page) : Kept settings session := by
  intro other hother
  obtain rfl := Option.some.inj (hpage.symm.trans hother)
  exact h

theorem kept_actOpen {page : ClientsPage} (h : Reachable settings page) (now : Nat) (stage : Stage)
    (action : ClientsStep) : Kept settings (actOpen now page stage action).1 := by
  unfold actOpen
  cases action with
  | settle ms =>
      have hnoted : Reachable settings (react (page, stage)).1 := h.reactAll
      exact kept_of_page rfl (Clock.advance_keeps reachable_runAt (now + ms) now
        (reachable_runAt now _ hnoted))
  | wait ms =>
      exact kept_of_page rfl (Clock.advance_keeps reachable_runLoops (now + ms) now
        (reachable_runLoops now (page, stage) h))
  | selectClient client => exact kept_of_page rfl (h.step (.selectClient client))
  | selectState kind state => exact kept_of_page rfl (h.step (.selectState kind state))
  | revoke client => exact kept_of_page rfl (reachable_runLoops now (page, stage) h)
  | sync => exact kept_of_page rfl (h.step (.sweeps (sweeps_sync page)))
  | drop =>
      intro other hother
      exact absurd hother (Option.not_mem_none other)

theorem Kept.act {session : ClientsSession} (h : Kept settings session) (action : ClientsStep) :
    Kept settings (session.act action).1 := by
  unfold ClientsSession.act
  split
  next page hpage => exact kept_actOpen (h page hpage) session.now session.stage action
  next hclosed =>
    -- a page that was closed stays closed
    split <;> exact h

/-- The session after these steps of the operator. -/
def after (session : ClientsSession) (actions : List ClientsStep) : ClientsSession :=
  actions.foldl (fun session action => (session.step action).1) session

/-- Every page that a rehearsal comes to is one that the page can come to, and follows what is
picked. -/
theorem reachable_after (settings : PollSettings) (script : Script) (actions : List ClientsStep) :
    ∀ page ∈ ((start settings script).after actions).page,
      Reachable settings page ∧ page.Follows [] := by
  suffices hall : ∀ session : ClientsSession, Kept settings session →
      Kept settings (session.after actions) by
    have hstart : Kept settings (start settings script) := by
      rintro _ ⟨⟩
      exact .start
    intro page hpage
    have hreachable := hall _ hstart page hpage
    exact ⟨hreachable, hreachable.follows⟩
  induction actions with
  | nil =>
      intro session h
      exact h
  | cons action rest ih =>
      intro session h
      exact ih _ (h.act action)

end Rehearsal.ClientsSession

end NfsWatch
