import Mathlib.Data.String.Basic
import NfsWatch.Proofs.Reconcile.Displayed

/-!
# Ids in ascending order

Sorting forgets the order in which a snapshot lists its ids and nothing else: repeated ids stay
repeated. The first id displayed is the least one.
-/

namespace NfsWatch.ReconciledList

variable {α : Type} [LinearOrder α]

theorem ascending_perm (ids : List α) : (ascending ids).Perm ids := List.mergeSort_perm ..

@[simp] theorem mem_ascending {ids : List α} {id : α} : id ∈ ascending ids ↔ id ∈ ids :=
  (ascending_perm ids).mem_iff

theorem ascending_pairwise (ids : List α) : (ascending ids).Pairwise (· ≤ ·) := by
  have hsorted : (ascending ids).Pairwise fun a b => (compare a b).isLE = true := by
    refine List.pairwise_mergeSort ?_ ?_ ids
    · intro a b c hab hbc
      rw [Std.LawfulBCmp.isLE_iff_le] at hab hbc ⊢
      exact le_trans hab hbc
    · intro a b
      rw [Bool.or_eq_true, Std.LawfulBCmp.isLE_iff_le, Std.LawfulBCmp.isLE_iff_le]
      exact le_total a b
  exact hsorted.imp fun hab => Std.LawfulBCmp.isLE_iff_le.mp hab

theorem ascending_congr {first second : List α} (h : first.Perm second) :
    ascending first = ascending second := by
  have hperm : (ascending first).Perm (ascending second) :=
    ((ascending_perm first).trans h).trans (ascending_perm second).symm
  refine hperm.eq_of_pairwise ?_ (ascending_pairwise first) (ascending_pairwise second)
  intro a b _ _ hab hba
  exact le_antisymm hab hba

/-- Two snapshots are displayed alike exactly if they list the same ids equally often. -/
theorem ascending_eq_iff {first second : List α} :
    ascending first = ascending second ↔ first.Perm second := by
  refine ⟨fun h => ?_, ascending_congr⟩
  exact (ascending_perm first).symm.trans (h ▸ ascending_perm second)

/-- A list of ids takes no notice of the order in which a snapshot lists them. -/
theorem reconcileSorted_perm {first second : List α} (h : first.Perm second)
    (list : ReconciledList α) : list.reconcileSorted first = list.reconcileSorted second := by
  unfold reconcileSorted
  rw [ascending_congr h]

/-- The first id displayed is the least one of the snapshot. -/
theorem head?_ascending (ids : List α) : (ascending ids).head? = ids.min? := by
  have hmem : ∀ id, id ∈ ascending ids ↔ id ∈ ids := fun id => mem_ascending
  have hsorted := ascending_pairwise ids
  cases h : ascending ids with
  | nil =>
      rw [h] at hmem
      have hids : ids = [] := List.eq_nil_iff_forall_not_mem.mpr fun id hid => by
        simpa using (hmem id).mpr hid
      rw [hids]
      rfl
  | cons least rest =>
      rw [h] at hmem hsorted
      refine (List.min?_eq_some_iff.mpr ⟨(hmem least).mp List.mem_cons_self, ?_⟩).symm
      intro id hid
      rcases List.mem_cons.mp ((hmem id).mpr hid) with rfl | hrest
      · exact le_refl id
      · exact (List.pairwise_cons.mp hsorted).1 id hrest

end NfsWatch.ReconciledList
