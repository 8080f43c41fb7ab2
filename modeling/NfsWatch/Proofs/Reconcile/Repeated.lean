import NfsWatch.Proofs.Reconcile.Ascending
import NfsWatch.Proofs.Reconcile.Reported
import NfsWatch.Proofs.Reconcile.Reread
import NfsWatch.Proofs.Reconcile.SectionHistory

/-!
# Reconciling with the same snapshot again

Whatever a list, a section or a record held before, it takes a snapshot in once: the same snapshot
finds nothing to do after that. For records this needs two facts about their patch, that it has
nothing to do for a record that is its own counterpart (after a replacement) and nothing for one
that was just patched from the same counterpart (after a patch), fields that the snapshot leaves
out included.
-/

namespace NfsWatch

open Patch ReconciledList

/-! ## Figures and records -/

theorem FsStats.patch_again (current incoming : FsStats) :
    (current.patch incoming).1.patch incoming = ((current.patch incoming).1, false) := by
  have hkept := FsStats.patch_fst incoming incoming
  rw [FsStats.patch_fst]
  refine Prod.ext hkept ?_
  rw [← Bool.not_eq_true, FsStats.patch_written]
  exact not_not_intro hkept

namespace Patch

theorem assignPresentBy_again {α : Type} {same : α → α → Bool}
    (hrefl : ∀ value, same value value = true) (slot value : Option α) :
    (assignPresentBy same (assignPresentBy same slot value).1 value).1 =
      (assignPresentBy same slot value).1 := by
  cases value with
  | none => rfl
  | some value =>
      have hsame : sameOption same (assignPresentBy same slot (some value)).1 (some value) = true :=
        assignPresentBy_same hrefl (sameOption_refl hrefl slot) (some value)
      show (assignBy (sameOption same) _ (some value)).1 = _
      unfold assignBy
      rw [if_pos hsame]

theorem assignExtra_again (slot value : Table Json) :
    (assignExtra (assignExtra slot value).1 value).1 = (assignExtra slot value).1 := by
  refine Table.ext_find? fun key => ?_
  rw [assignExtra_find?, assignExtra_find?, assignPresentBy_again Json.same_refl]

end Patch

/-- Records that take each counterpart in at once. -/
class PatchedOnce (α : Type) [Keyed α] : Prop where
  patch_self : ∀ record : α, (Keyed.patch record record).1 = record
  patch_again : ∀ current next : α,
    (Keyed.patch (Keyed.patch current next).1 next).1 = (Keyed.patch current next).1

instance : PatchedOnce Device where
  patch_self := Device.patch_self
  patch_again := by
    intro current next
    show (Device.patch (Device.patch current next).1 next).1 = (Device.patch current next).1
    simp only [Device.patch, assign_fst, assignPresent_fst, ← Option.or_assoc, Option.or_self,
      assignPresentBy_again Binary64.same_refl, assignExtra_again]

instance : PatchedOnce Replica where
  patch_self := Replica.patch_self
  patch_again := by
    intro current next
    show (Replica.patch (Replica.patch current next).1 next).1 = (Replica.patch current next).1
    simp only [Replica.patch, assign_fst, assignPresent_fst, ← Option.or_assoc, Option.or_self,
      assignExtra_again]

instance : PatchedOnce OperationCount where
  patch_self := fun _ => OperationCount.patch_fst rfl
  patch_again := by
    intro current next
    show (OperationCount.patch (OperationCount.patch current next).1 next).1 =
      (OperationCount.patch current next).1
    simp only [OperationCount.patch, assign_fst]

/-! ## Lists -/

namespace ReconciledList

variable {α : Type} [Keyed α] [LawfulKeyed α] [PatchedOnce α]

omit [LawfulKeyed α] in
theorem patchAll_again (current incoming : List α) :
    (patchAll (patchAll current incoming).1 incoming).1 = (patchAll current incoming).1 := by
  induction current generalizing incoming with
  | nil => cases incoming <;> rfl
  | cons record rest ih =>
      cases incoming with
      | nil => rfl
      | cons next more =>
          show (Keyed.patch (Keyed.patch record next).1 next).1 ::
              (patchAll (patchAll rest more).1 more).1 =
            (Keyed.patch record next).1 :: (patchAll rest more).1
          rw [PatchedOnce.patch_again, ih]

theorem reconcileKeyed_again (list : ReconciledList α) (snapshot : List α) :
    (list.reconcileKeyed snapshot).1.reconcileKeyed snapshot =
      ((list.reconcileKeyed snapshot).1, .unchanged) := by
  by_cases hkeys : keys list.items = keys (snapshot.map Keyed.derived)
  · let patched := patchAll list.items (snapshot.map Keyed.derived)
    have hagain : (patchAll patched.1 (snapshot.map Keyed.derived)).1 = patched.1 :=
      patchAll_again ..
    have hquiet : (patchAll patched.1 (snapshot.map Keyed.derived)).2 = false := by
      rw [← Bool.not_eq_true, patchAll_written, Ne, not_not]
      exact hagain
    have hsame : keys patched.1 = keys (snapshot.map Keyed.derived) :=
      (keys_patchAll ..).trans hkeys
    rw [reconcileKeyed_same hkeys]
    show ReconciledList.reconcileKeyed ⟨patched.1, list.generation⟩ snapshot = _
    rw [reconcileKeyed_same hsame]
    show (ReconciledList.mk (patchAll patched.1 _).1 list.generation, _) = _
    rw [hagain, hquiet]
    rfl
  · rw [reconcileKeyed_replaced hkeys]
    exact reconcileKeyed_self PatchedOnce.patch_self rfl

end ReconciledList

theorem Section.apply_again {α : Type} [Keyed α] [LawfulKeyed α] [PatchedOnce α]
    (current : Section α) (snapshot : List α) (policy : HiddenPolicy) :
    (current.apply snapshot policy).1.apply snapshot policy =
      ((current.apply snapshot policy).1, .unchanged) := by
  by_cases hrecords : snapshot = []
  · subst hrecords
    rfl
  · rw [apply_records hrecords, apply_records hrecords, reconcileKeyed_again]
    cases current.hidden <;> cases policy <;> rfl

end NfsWatch
