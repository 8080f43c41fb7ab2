import NfsWatch.Proofs.Reconcile.Patch

/-!
# What reconciling displays

However a snapshot reaches a list, patched in or adopted whole, the ids of a sorted list and the
rows of a counter list are then those of the snapshot, and so are the figures of the capacity.
Reconciling by key leaves a list in exactly one of two ways, which `reconcileKeyed_same` and
`reconcileKeyed_replaced` state.
-/

namespace NfsWatch

@[simp] theorem FsStats.patch_fst (current incoming : FsStats) :
    (current.patch incoming).1 = incoming := by
  simp [FsStats.patch]

namespace ReconciledList

variable {α : Type}

/-! ## Lists of ids -/

theorem reconcileSorted_same [Ord α] [DecidableEq α] {list : ReconciledList α} {snapshot : List α}
    (h : list.items = ascending snapshot) :
    list.reconcileSorted snapshot = (list, .unchanged) := by
  simp [reconcileSorted, h]

theorem reconcileSorted_replaced [Ord α] [DecidableEq α] {list : ReconciledList α}
    {snapshot : List α} (h : list.items ≠ ascending snapshot) :
    list.reconcileSorted snapshot = (⟨ascending snapshot, list.generation + 1⟩, .replaced) := by
  simp [reconcileSorted, replace, h]

@[simp] theorem reconcileSorted_items [Ord α] [DecidableEq α] (list : ReconciledList α)
    (snapshot : List α) : (list.reconcileSorted snapshot).1.items = ascending snapshot := by
  by_cases h : list.items = ascending snapshot
  · rw [reconcileSorted_same h]
    exact h
  · rw [reconcileSorted_replaced h]

/-! ## Lists of records -/

variable [Keyed α]

theorem reconcileKeyed_same {list : ReconciledList α} {snapshot : List α}
    (h : keys list.items = keys (snapshot.map Keyed.derived)) :
    list.reconcileKeyed snapshot =
      (⟨(patchAll list.items (snapshot.map Keyed.derived)).1, list.generation⟩,
        .ofPatched (patchAll list.items (snapshot.map Keyed.derived)).2) := by
  simp [reconcileKeyed, h]

theorem reconcileKeyed_replaced {list : ReconciledList α} {snapshot : List α}
    (h : keys list.items ≠ keys (snapshot.map Keyed.derived)) :
    list.reconcileKeyed snapshot =
      (⟨snapshot.map Keyed.derived, list.generation + 1⟩, .replaced) := by
  simp [reconcileKeyed, replace, h]

end ReconciledList

/-! ## Rows of counters -/

/-- Patching a row makes it the row of the snapshot, once the names agree. -/
theorem OperationCount.patch_fst {current incoming : OperationCount}
    (h : current.name = incoming.name) : (current.patch incoming).1 = incoming := by
  obtain ⟨name, count⟩ := incoming
  subst h
  simp [OperationCount.patch]

namespace ReconciledList

theorem patchAll_rows {current incoming : List OperationCount}
    (h : keys current = keys incoming) : (patchAll current incoming).1 = incoming := by
  induction current generalizing incoming with
  | nil =>
      cases incoming with
      | nil => rfl
      | cons row rows => exact nomatch h
  | cons first rest ih =>
      cases incoming with
      | nil => exact nomatch h
      | cons row rows =>
          obtain ⟨hname, hrest⟩ := List.cons.inj h
          show (first.patch row).1 :: (patchAll rest rows).1 = row :: rows
          rw [OperationCount.patch_fst hname, ih hrest]

/-- The rows displayed are those of the counters. -/
@[simp] theorem reconcileKeyed_rows (list : ReconciledList OperationCount)
    (rows : List OperationCount) : (list.reconcileKeyed rows).1.items = rows := by
  have hderived : rows.map Keyed.derived = rows := List.map_id rows
  by_cases h : keys list.items = keys (rows.map Keyed.derived)
  · rw [reconcileKeyed_same h]
    show (patchAll _ _).1 = rows
    rw [patchAll_rows h, hderived]
  · rw [reconcileKeyed_replaced h]
    exact hderived

end ReconciledList

end NfsWatch
