import Mathlib.Data.List.Forall2
import NfsWatch.Monitor.FilesystemStatus
import NfsWatch.Proofs.Reconcile.CarriedForward
import NfsWatch.Reconcile.Selection

/-!
# What reconciling reports

Each reconciliation tells whether it changed anything. Two facts pin the flag down. Without a report
nothing was written at all (`…_quiet`). With one, the result is not the same as what was there
(`…_visible`), where two records are the same if their fields are, the two floating-point zeros
counting as one: a value is never written over one that denotes the same.
-/

namespace NfsWatch

open Patch

/-! ## Records and lists that are the same -/

/-- Tables with the same keys and, under each key, values that denote the same. -/
def Table.Same (first second : Table Json) : Prop :=
  ∀ key, sameOption Json.same (first.find? key) (second.find? key) = true

structure Device.Same (first second : Device) : Prop where
  id : first.id = second.id
  owner : first.owner = second.owner
  addresses : first.addresses = second.addresses
  state : first.state = second.state
  totalSpace : first.totalSpace = second.totalSpace
  freeSpace : first.freeSpace = second.freeSpace
  availSpace : first.availSpace = second.availSpace
  priority : sameOption Binary64.same first.priority second.priority = true
  color : first.color = second.color
  extra : first.extra.Same second.extra

structure Replica.Same (first second : Replica) : Prop where
  id : first.id = second.id
  addresses : first.addresses = second.addresses
  state : first.state = second.state
  color : first.color = second.color
  extra : first.extra.Same second.extra

/-- Lists of one generation with the same records, position by position. -/
structure ReconciledList.Same {α : Type} (same : α → α → Prop)
    (first second : ReconciledList α) : Prop where
  items : List.Forall₂ same first.items second.items
  generation : first.generation = second.generation

structure Section.Same {α : Type} (same : α → α → Prop) (first second : Section α) : Prop where
  list : first.list.Same same second.list
  hidden : first.hidden = second.hidden

/-! ## Fields -/

namespace Patch

variable {α : Type}

theorem assignBy_visible {same : α → α → Bool} {slot value : α}
    (h : (assignBy same slot value).2 = true) :
    same slot (assignBy same slot value).1 = false := by
  unfold assignBy at h ⊢
  split
  · rename_i hsame
    rw [if_pos hsame] at h
    exact nomatch h
  · rename_i hother
    exact Bool.eq_false_iff.mpr hother

theorem assignPresentBy_visible {same : α → α → Bool} {slot value : Option α}
    (h : (assignPresentBy same slot value).2 = true) :
    sameOption same slot (assignPresentBy same slot value).1 = false := by
  cases value with
  | none => exact nomatch h
  | some value => exact assignBy_visible h

theorem assignExtra_visible {slot value : Table Json} (h : (assignExtra slot value).2 = true) :
    ¬ slot.Same (assignExtra slot value).1 := by
  obtain ⟨key, hwritten⟩ := (assignExtra_flag slot value).mp h
  intro hsame
  have hkey := hsame key
  rw [assignExtra_find?, assignPresentBy_visible hwritten] at hkey
  exact nomatch hkey

end Patch

theorem FsStats.patch_written (current incoming : FsStats) :
    (current.patch incoming).2 = true ↔ (current.patch incoming).1 ≠ current := by
  obtain ⟨totalSpace, freeSpace, availSpace, totalFiles, freeFiles, availFiles, repairQueueSize⟩ :=
    current
  simp only [FsStats.patch, Bool.or_eq_true, assign_written, Ne, FsStats.mk.injEq, not_and_or,
    or_assoc]

theorem FsStats.patch_quiet {current incoming : FsStats}
    (h : (current.patch incoming).2 = false) : (current.patch incoming).1 = current := by
  by_contra hne
  rw [(patch_written current incoming).mpr hne] at h
  exact nomatch h

theorem Device.patch_visible (current incoming : Device)
    (h : (current.patch incoming).2 = true) : ¬ current.Same (current.patch incoming).1 := by
  intro hsame
  simp only [Device.patch, Bool.or_eq_true] at h
  rcases h with (((((((h | h) | h) | h) | h) | h) | h) | h) | h
  · exact (assignPresent_written _ _).mp h hsame.owner.symm
  · exact (assignPresent_written _ _).mp h hsame.addresses.symm
  · exact (assign_written _ _).mp h hsame.state.symm
  · exact (assignPresent_written _ _).mp h hsame.totalSpace.symm
  · exact (assignPresent_written _ _).mp h hsame.freeSpace.symm
  · exact (assignPresent_written _ _).mp h hsame.availSpace.symm
  · have hpriority : sameOption Binary64.same current.priority
        (assignPresentBy Binary64.same current.priority incoming.priority).1 = true :=
      hsame.priority
    rw [assignPresentBy_visible h] at hpriority
    exact nomatch hpriority
  · exact (assign_written _ _).mp h hsame.color.symm
  · exact assignExtra_visible h hsame.extra

theorem Replica.patch_visible (current incoming : Replica)
    (h : (current.patch incoming).2 = true) : ¬ current.Same (current.patch incoming).1 := by
  intro hsame
  simp only [Replica.patch, Bool.or_eq_true] at h
  rcases h with ((h | h) | h) | h
  · exact (assignPresent_written _ _).mp h hsame.addresses.symm
  · exact (assign_written _ _).mp h hsame.state.symm
  · exact (assign_written _ _).mp h hsame.color.symm
  · exact assignExtra_visible h hsame.extra

instance : LawfulKeyed OperationCount where
  key_derived := fun _ => rfl
  key_patch := fun _ _ => rfl
  patch_written := by
    intro current next
    obtain ⟨name, count⟩ := current
    show (OperationCount.patch _ next).2 = true ↔ (OperationCount.patch _ next).1 ≠ _
    simp only [OperationCount.patch, assign_written, Ne, OperationCount.mk.injEq, true_and]

/-! ## Lists -/

namespace ReconciledList

variable {α : Type}

section sorted

variable [Ord α] [DecidableEq α] {list : ReconciledList α} {snapshot : List α}

theorem reconcileSorted_quiet (h : (list.reconcileSorted snapshot).2.changed = false) :
    (list.reconcileSorted snapshot).1 = list := by
  by_cases hitems : list.items = ascending snapshot
  · rw [reconcileSorted_same hitems]
  · rw [reconcileSorted_replaced hitems] at h
    exact nomatch h

theorem reconcileSorted_visible (h : (list.reconcileSorted snapshot).2.changed = true) :
    (list.reconcileSorted snapshot).1 ≠ list := by
  by_cases hitems : list.items = ascending snapshot
  · rw [reconcileSorted_same hitems] at h
    exact nomatch h
  · rw [reconcileSorted_replaced hitems]
    intro heq
    exact Nat.succ_ne_self _ (congrArg ReconciledList.generation heq)

theorem reconcileSorted_changed (list : ReconciledList α) (snapshot : List α) :
    (list.reconcileSorted snapshot).2.changed = true ↔
      (list.reconcileSorted snapshot).1.items ≠ list.items := by
  by_cases hitems : list.items = ascending snapshot
  · simp [reconcileSorted_same hitems, Outcome.changed]
  · simp [reconcileSorted_replaced hitems, Outcome.changed, Ne.symm hitems]

end sorted

variable [Keyed α] {list : ReconciledList α} {snapshot : List α}

theorem reconcileKeyed_quiet [LawfulKeyed α]
    (h : (list.reconcileKeyed snapshot).2.changed = false) :
    (list.reconcileKeyed snapshot).1 = list := by
  by_cases hkeys : keys list.items = keys (snapshot.map Keyed.derived)
  · rw [reconcileKeyed_same hkeys] at h ⊢
    rw [Outcome.changed_ofPatched, ← Bool.not_eq_true, patchAll_written, Ne, not_not] at h
    rw [h]
  · rw [reconcileKeyed_replaced hkeys] at h
    exact nomatch h

theorem reconcileKeyed_changed [LawfulKeyed α] (list : ReconciledList α) (snapshot : List α) :
    (list.reconcileKeyed snapshot).2.changed = true ↔
      (list.reconcileKeyed snapshot).1.items ≠ list.items := by
  by_cases hkeys : keys list.items = keys (snapshot.map Keyed.derived)
  · rw [reconcileKeyed_same hkeys, Outcome.changed_ofPatched]
    exact patchAll_written ..
  · rw [reconcileKeyed_replaced hkeys]
    refine ⟨fun _ hitems => hkeys ?_, fun _ => rfl⟩
    exact congrArg keys hitems.symm

section visible

variable {same : α → α → Prop}
  (hpatch : ∀ current next : α, (Keyed.patch current next).2 = true →
    ¬ same current (Keyed.patch current next).1)
include hpatch

theorem patchAll_visible {current incoming : List α} (h : (patchAll current incoming).2 = true) :
    ¬ List.Forall₂ same current (patchAll current incoming).1 := by
  induction current generalizing incoming with
  | nil => cases incoming <;> exact nomatch h
  | cons record rest ih =>
      cases incoming with
      | nil => exact nomatch h
      | cons next more =>
          intro hsame
          obtain ⟨hfirst, hrest⟩ := List.forall₂_cons.mp hsame
          rcases Bool.or_eq_true_iff.mp h with hwritten | hothers
          · exact hpatch record next hwritten hfirst
          · exact ih hothers hrest

theorem reconcileKeyed_visible (h : (list.reconcileKeyed snapshot).2.changed = true) :
    ¬ list.Same same (list.reconcileKeyed snapshot).1 := by
  intro hsame
  by_cases hkeys : keys list.items = keys (snapshot.map Keyed.derived)
  · rw [reconcileKeyed_same hkeys] at h hsame
    rw [Outcome.changed_ofPatched] at h
    exact patchAll_visible hpatch h hsame.items
  · rw [reconcileKeyed_replaced hkeys] at hsame
    exact Nat.succ_ne_self _ hsame.generation.symm

end visible

end ReconciledList

/-! ## Sections -/

namespace Section

variable {α : Type} [Keyed α] {current : Section α} {snapshot : List α} {policy : HiddenPolicy}

theorem apply_quiet [LawfulKeyed α] (h : (current.apply snapshot policy).2.changed = false) :
    (current.apply snapshot policy).1 = current := by
  obtain ⟨list, hidden⟩ := current
  unfold apply at h ⊢
  cases hempty : snapshot.isEmpty with
  | true =>
      simp only [hempty, if_true, Outcome.changed_ofPatched] at h ⊢
      rw [Bool.not_eq_false'] at h
      rw [h]
  | false =>
      simp only [hempty, Bool.false_eq_true, if_false, Outcome.changed_and,
        Outcome.changed_ofPatched, Bool.or_eq_false_iff] at h ⊢
      rw [h.1, ReconciledList.reconcileKeyed_quiet h.2, Bool.not_false, Bool.and_true]

theorem apply_visible {same : α → α → Prop}
    (hpatch : ∀ current next : α, (Keyed.patch current next).2 = true →
      ¬ same current (Keyed.patch current next).1)
    (h : (current.apply snapshot policy).2.changed = true) :
    ¬ current.Same same (current.apply snapshot policy).1 := by
  intro hsame
  unfold apply at h hsame
  cases hempty : snapshot.isEmpty with
  | true =>
      simp only [hempty, if_true, Outcome.changed_ofPatched] at h hsame
      rw [hsame.hidden] at h
      exact nomatch h
  | false =>
      simp only [hempty, Bool.false_eq_true, if_false, Outcome.changed_and,
        Outcome.changed_ofPatched, Bool.or_eq_true] at h hsame
      rcases h with hshows | hlist
      · -- a panel that is shown again was hidden
        have hhidden := hsame.hidden
        rw [hshows, (Bool.and_eq_true_iff.mp hshows).1] at hhidden
        exact nomatch hhidden
      · exact ReconciledList.reconcileKeyed_visible hpatch hlist hsame.list

end Section

/-! ## Selections -/

namespace Selection

variable {α : Type} [DecidableEq α] {selection : Selection α} {value : α} {items : List α}

theorem reconcile_quiet (h : (selection.reconcile items).2 = false) :
    (selection.reconcile items).1 = selection := by
  obtain ⟨selected, reselect⟩ := selection
  cases selected with
  | none =>
      have hnone : items.head? = none := Option.not_isSome_iff_eq_none.mp (Bool.eq_false_iff.mp h)
      show (⟨items.head?, reselect⟩ : Selection α) = _
      rw [hnone]
  | some current =>
      simp only [reconcile] at h ⊢
      split
      · rfl
      · rename_i hgone
        rw [if_neg hgone] at h
        cases reselect <;> exact nomatch h

theorem reconcile_visible (h : (selection.reconcile items).2 = true) :
    (selection.reconcile items).1.selected ≠ selection.selected := by
  obtain ⟨selected, reselect⟩ := selection
  cases selected with
  | none => exact Option.ne_none_iff_isSome.mpr h
  | some current =>
      simp only [reconcile] at h ⊢
      split
      · rename_i hlisted
        rw [if_pos hlisted] at h
        exact nomatch h
      · rename_i hgone
        cases reselect with
        | nextPass => exact nofun
        | immediate =>
            -- the first entry is listed, and the value that was picked is not
            intro heq
            exact hgone (List.mem_of_head? heq)

theorem select_quiet (h : (selection.select value items).2 = false) :
    (selection.select value items).1 = selection := by
  unfold select at h ⊢
  split at h
  · rename_i hkept
    rw [if_pos hkept]
  · exact nomatch h

theorem select_visible (h : (selection.select value items).2 = true) :
    (selection.select value items).1.selected ≠ selection.selected := by
  unfold select at h ⊢
  split at h
  · exact nomatch h
  · rename_i hmoves
    rw [if_neg hmoves]
    exact fun heq => hmoves (Or.inr heq.symm)

end Selection

end NfsWatch
