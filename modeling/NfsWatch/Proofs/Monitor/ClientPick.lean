import NfsWatch.Proofs.Monitor.Announced
import NfsWatch.Proofs.Monitor.History
import NfsWatch.Proofs.Poll.Convergence
import NfsWatch.Proofs.Reconcile.Ascending
import NfsWatch.Proofs.Reconcile.Picked

/-!
# The pick among the clients

Some client is picked whenever any is listed. A poll leaves the pick alone unless the client is
gone, and then the least client takes its place; operator input moves it to any client that is
listed. Between two moves by the operator a client that stays listed therefore stays picked
(`picked_or_moved`).
-/

namespace NfsWatch.ClientList

open ReconciledList

/-! ## What one step does -/

section poll

variable {view : View} {ids : List String} {client : String}

theorem apply_picks (view : View) (ids : List String) :
    (apply view ids).view.selection = (view.selection.reconcile (ascending ids)).1 := by
  rw [← reconcileSorted_items view.clients ids]
  rfl

theorem apply_kept (h : view.selected = some client) (hlisted : client ∈ ids) :
    (apply view ids).view.selected = some client := by
  unfold View.selected
  rw [apply_picks, Selection.reconcile_listed h (mem_ascending.mpr hlisted)]
  exact h

theorem apply_gone (himmediate : view.selection.reselect = .immediate)
    (h : view.selected = some client) (hgone : client ∉ ids) :
    (apply view ids).view.selected = ids.min? := by
  have hunlisted : client ∉ ascending ids := fun hmem => hgone (mem_ascending.mp hmem)
  unfold View.selected
  rw [apply_picks, Selection.reconcile_gone h hunlisted, if_pos himmediate, head?_ascending]

theorem apply_first (h : view.selected = none) :
    (apply view ids).view.selected = ids.min? := by
  unfold View.selected
  rw [apply_picks, Selection.reconcile_none h, head?_ascending]

theorem apply_changed : (apply view ids).changed = true ↔
    (apply view ids).view.clients.items ≠ view.clients.items ∨
      (apply view ids).view.selected ≠ view.selected := by
  have hlist := reconcileSorted_changed view.clients ids
  have hpick := @Selection.reconcile_moved _ _ view.selection
    (view.clients.reconcileSorted ids).1.items
  exact Bool.or_eq_true_iff.trans (or_congr hlist hpick)

end poll

section command

variable {view : View} {client : String}

theorem command_listed (h : client ∈ view.clients.items) :
    (command view (.select client)).1.selected = some client := Selection.select_listed h

theorem command_unlisted (h : client ∉ view.clients.items) :
    command view (.select client) = (view, false) :=
  congrArg (fun picked : Selection String × Bool => (View.mk view.clients picked.1, picked.2))
    (Selection.select_unlisted h)

theorem command_changed : (command view (.select client)).2 = true ↔
    client ∈ view.clients.items ∧ view.selected ≠ some client := Selection.select_moved

end command

/-! ## The pick is valid -/

/-- A client is picked unless none is listed, and it is one that is listed. -/
structure View.Sound (view : View) : Prop where
  immediate : view.selection.reselect = .immediate
  none_iff : view.selected = none ↔ view.clients.items = []
  listed : ∀ client, view.selected = some client → client ∈ view.clients.items

theorem View.Sound.of_picked {view : View} (himmediate : view.selection.reselect = .immediate)
    (hempty : view.selected = none → view.clients.items = [])
    (hlisted : ∀ client, view.selected = some client → client ∈ view.clients.items) :
    view.Sound where
  immediate := himmediate
  none_iff := by
    refine ⟨hempty, fun hitems => Option.eq_none_iff_forall_ne_some.mpr fun client hpicked => ?_⟩
    have hmem := hlisted client hpicked
    rw [hitems] at hmem
    exact nomatch hmem
  listed := hlisted

theorem keeps_sound : monitor.Keeps View.Sound where
  start := ⟨rfl, ⟨fun _ => rfl, fun _ => rfl⟩, nofun⟩
  payload := by
    intro view ids h
    refine .of_picked ((Selection.reconcile_reselect ..).trans h.immediate) ?_
      fun client => Selection.mem_of_reconcile
    intro hnone
    rcases Selection.reconcile_eq_none hnone with hempty | ⟨hnext, _⟩
    · exact hempty
    · exact nomatch hnext.symm.trans h.immediate
  response := by
    intro view endpoint response filed changed hfiled h
    exact Monitor.filed_eq rfl hfiled ▸ h
  command := by
    rintro view ⟨client⟩ h
    show (command view (.select client)).1.Sound
    by_cases hlisted : client ∈ view.clients.items
    · have hpicked := command_listed hlisted
      refine .of_picked ((Selection.select_reselect ..).trans h.immediate) ?_ ?_
      · rw [hpicked]
        exact nofun
      · intro other hother
        rw [hpicked] at hother
        exact Option.some.inj hother ▸ hlisted
    · rw [command_unlisted hlisted]
      exact h

theorem sound (history : List (Contribution (List String) Command)) :
    (monitor.viewAfter history).Sound := keeps_sound.viewAfter history

/-! ## The pick is stable -/

/-- What a poll does to the pick, and when it reports a change. -/
structure Polls (view : View) (ids : List String) : Prop where
  kept : ∀ client ∈ ids, view.selected = some client →
    (apply view ids).view.selected = some client
  gone : ∀ client ∉ ids, view.selected = some client →
    (apply view ids).view.selected = ids.min?
  first : view.selected = none → (apply view ids).view.selected = ids.min?
  changed : (apply view ids).changed = true ↔
    (apply view ids).view.clients.items ≠ view.clients.items ∨
      (apply view ids).view.selected ≠ view.selected
  quiet : (apply view ids).changed = false → (apply view ids).view = view

theorem View.Sound.polls {view : View} (h : view.Sound) (ids : List String) : Polls view ids where
  kept := fun _ hlisted hpicked => apply_kept hpicked hlisted
  gone := fun _ hgone hpicked => apply_gone h.immediate hpicked hgone
  first := apply_first
  changed := apply_changed
  quiet := announces.payload view ids

/-- What operator input does to the pick, and when it reports a change. -/
structure Obeys (view : View) (client : String) : Prop where
  moves : (command view (.select client)).1.selected ≠ view.selected ↔
    client ∈ view.clients.items ∧ view.selected ≠ some client
  target : client ∈ view.clients.items →
    (command view (.select client)).1.selected = some client
  clients : (command view (.select client)).1.clients = view.clients
  changed : (command view (.select client)).2 = true ↔
    (command view (.select client)).1.selected ≠ view.selected

theorem obeys (view : View) (client : String) : Obeys view client := by
  have hmoves : (command view (.select client)).1.selected ≠ view.selected ↔
      client ∈ view.clients.items ∧ view.selected ≠ some client := by
    by_cases hlisted : client ∈ view.clients.items
    · rw [command_listed hlisted, ne_comm]
      exact (and_iff_right hlisted).symm
    · rw [command_unlisted hlisted]
      exact ⟨fun hne => absurd rfl hne, fun hmoves => absurd hmoves.1 hlisted⟩
  exact ⟨hmoves, command_listed, rfl, command_changed.trans hmoves.symm⟩

/-- Operator input moves the pick away from a client that is picked until then. -/
def MovedAway (history stretch : List (Contribution (List String) Command)) (client : String) :
    Prop :=
  ∃ before other later, stretch = before ++ .command (.select other) :: later ∧
    (monitor.viewAfter (history ++ before)).selected = some client ∧
    other ≠ client ∧ other ∈ (monitor.viewAfter (history ++ before)).clients.items

/-- A client that is picked, and listed by every poll of a stretch, stays picked unless the operator
moves the pick. -/
theorem picked_or_moved {history stretch : List (Contribution (List String) Command)}
    {client : String} (hpicked : (monitor.viewAfter history).selected = some client)
    (hlisted : ∀ tick ids, .payload tick ids ∈ stretch → client ∈ ids) :
    (monitor.viewAfter (history ++ stretch)).selected = some client ∨
      MovedAway history stretch client := by
  induction stretch using List.reverseRecOn with
  | nil => exact Or.inl (by simpa using hpicked)
  | append_singleton stretch last ih =>
      have hearlier : ∀ tick ids, .payload tick ids ∈ stretch → client ∈ ids :=
        fun tick ids hmem => hlisted tick ids (List.mem_append_left _ hmem)
      rcases ih hearlier with hkept | ⟨before, other, later, hsplit, hmoved⟩
      · rw [← List.append_assoc, Monitor.viewAfter_concat]
        cases last with
        | payload tick ids =>
            exact Or.inl (apply_kept hkept (hlisted tick ids (by simp)))
        | response endpoint response =>
            have hsame : monitor.absorb (monitor.viewAfter (history ++ stretch))
                (.response endpoint response) = monitor.viewAfter (history ++ stretch) :=
              Monitor.absorb_response (fun h => Monitor.filed_eq rfl h) ..
            rw [hsame]
            exact Or.inl hkept
        | command command =>
            obtain ⟨other⟩ := command
            -- only input for another client that is listed moves the pick
            show (ClientList.command _ (.select other)).1.selected = _ ∨ _
            by_cases hother : other ∈ (monitor.viewAfter (history ++ stretch)).clients.items
            · by_cases heq : other = client
              · exact Or.inl (heq ▸ command_listed hother)
              · exact Or.inr ⟨stretch, other, [], rfl, hkept, heq, hother⟩
            · rw [command_unlisted hother]
              exact Or.inl hkept
      · refine Or.inr ⟨before, other, later ++ [last], ?_, hmoved⟩
        rw [hsplit, List.append_assoc, List.cons_append]

/-- Whatever was folded into the client list, the pick is valid, polls and operator input treat it
as said, and it lasts as long as its client. -/
theorem client_pick_stable (history : List (Contribution (List String) Command)) :
    (monitor.viewAfter history).Sound ∧
      (∀ ids, Polls (monitor.viewAfter history) ids) ∧
      (∀ client, Obeys (monitor.viewAfter history) client) ∧
      ∀ stretch client, (monitor.viewAfter history).selected = some client →
        (∀ tick ids, .payload tick ids ∈ stretch → client ∈ ids) →
        (monitor.viewAfter (history ++ stretch)).selected = some client ∨
          MovedAway history stretch client := by
  have hsound := sound history
  refine ⟨hsound, hsound.polls, obeys _, ?_⟩
  intro stretch client hpicked hlisted
  exact picked_or_moved hpicked hlisted

/-- Of three clients, one of them sent twice, the least is picked. The operator picks another one,
and it stays picked while others come and go, until it goes itself. -/
theorem pick_outlasts_the_others :
    let history : List (Contribution (List String) Command) :=
      [.payload 1 ["c", "a", "b", "a"], .command (.select "b")]
    (monitor.viewAfter (history.take 1)).selected = some "a" ∧
      (monitor.viewAfter history).selected = some "b" ∧
      (monitor.viewAfter (history ++ [.payload 2 ["b", "d"], .payload 3 ["b"]])).selected =
        some "b" ∧
      (apply (monitor.viewAfter history) ["d", "c"]).view.selected = some "c" := by
  intro history
  have hfirst : (apply monitor.initial ["c", "a", "b", "a"]).view.selected = some "a" := by
    rw [apply_first rfl]
    decide +kernel
  have hlisted : "b" ∈ (apply monitor.initial ["c", "a", "b", "a"]).view.clients.items := by
    show "b" ∈ (ReconciledList.reconcileSorted _ _).1.items
    rw [reconcileSorted_items]
    exact mem_ascending.mpr (by decide)
  have hpicked : (monitor.viewAfter history).selected = some "b" := command_listed hlisted
  obtain ⟨_, hpolls, _, hstays⟩ := client_pick_stable history
  refine ⟨hfirst, hpicked, ?_, ?_⟩
  · have hlisted : ∀ tick ids, (.payload tick ids : Contribution (List String) Command) ∈
        [.payload 2 ["b", "d"], .payload 3 ["b"]] → "b" ∈ ids := by
      rintro tick ids hmem
      simp only [List.mem_cons, List.not_mem_nil, or_false, Contribution.payload.injEq] at hmem
      rcases hmem with ⟨_, rfl⟩ | ⟨_, rfl⟩ <;> simp
    rcases hstays _ "b" hpicked hlisted with hkept | hmoved
    · exact hkept
    · obtain ⟨before, other, later, hsplit, _⟩ := hmoved
      have hmem : (.command (.select other) : Contribution (List String) Command) ∈
          [.payload 2 ["b", "d"], .payload 3 ["b"]] := by
        rw [hsplit]
        simp
      simp at hmem
  · rw [(hpolls ["d", "c"]).gone "b" (by decide) hpicked]
    decide +kernel

end NfsWatch.ClientList
