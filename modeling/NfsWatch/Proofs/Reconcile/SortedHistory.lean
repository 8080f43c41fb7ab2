import NfsWatch.Proofs.Reconcile.Ascending
import NfsWatch.Proofs.Reconcile.KeyedHistory

/-!
# What a list of ids remembers

Fed with snapshots from empty on, a list of ids shows those of the last snapshot in ascending
order, repeated ones included, and its generation counts the snapshots that were no permutation of
the one before. So nothing hangs on the order in which a snapshot lists its ids
(`displayed_reordered`). The keys may be of any totally ordered type.
-/

namespace NfsWatch.SortedHistory

open ReconciledList
open KeyedHistory (newest newest_concat turns turns_concat)

variable {α : Type} [LinearOrder α]

/-- What is displayed after these snapshots, from empty on. -/
def displayed (snapshots : List (List α)) : ReconciledList α :=
  snapshots.foldl (fun list snapshot => (list.reconcileSorted snapshot).1) .empty

/-- What one more snapshot does. -/
def outcome (earlier : List (List α)) (last : List α) : Outcome :=
  ((displayed earlier).reconcileSorted last).2

theorem displayed_concat (snapshots : List (List α)) (last : List α) :
    displayed (snapshots ++ [last]) = ((displayed snapshots).reconcileSorted last).1 := by
  unfold displayed
  rw [List.foldl_append]
  rfl

/-! ## What the list shows -/

theorem items_displayed (snapshots : List (List α)) :
    (displayed snapshots).items = ascending (newest snapshots) := by
  induction snapshots using List.reverseRecOn with
  | nil => exact List.mergeSort_nil.symm
  | append_singleton snapshots last _ =>
      rw [displayed_concat, reconcileSorted_items, newest_concat]

/-- A snapshot with the ids of the one before leaves the list alone. -/
theorem reconcile_same {earlier : List (List α)} {last : List α}
    (h : (newest earlier).Perm last) :
    (displayed earlier).reconcileSorted last = (displayed earlier, .unchanged) :=
  reconcileSorted_same ((items_displayed earlier).trans (ascending_congr h))

/-- One with other ids is adopted. -/
theorem reconcile_other {earlier : List (List α)} {last : List α}
    (h : ¬ (newest earlier).Perm last) :
    (displayed earlier).reconcileSorted last =
      (⟨ascending last, (displayed earlier).generation + 1⟩, .replaced) := by
  refine reconcileSorted_replaced fun hitems => h ?_
  rw [items_displayed] at hitems
  exact ascending_eq_iff.mp hitems

theorem generation_displayed (snapshots : List (List α)) :
    (displayed snapshots).generation =
      turns (fun before after : List α => ¬ before.Perm after) [] snapshots := by
  induction snapshots using List.reverseRecOn with
  | nil => rfl
  | append_singleton snapshots last ih =>
      rw [displayed_concat, turns_concat, ← ih]
      show _ = _ + if ¬ (newest snapshots).Perm last then 1 else 0
      by_cases h : (newest snapshots).Perm last
      · rw [reconcile_same h, if_neg (not_not_intro h)]
        rfl
      · rw [reconcile_other h, if_pos h]

/-- What a list of ids is after a history of snapshots, and what the last of them did. -/
structure FollowsMembership (earlier : List (List α)) (last : List α) : Prop where
  ascending : (displayed (earlier ++ [last])).items.Pairwise (· ≤ ·)
  /-- The ids are those of the last snapshot, each as often as it is listed there. -/
  ids : (displayed (earlier ++ [last])).items.Perm last
  /-- The generation counts the snapshots that are no permutation of the one before. -/
  generation : (displayed (earlier ++ [last])).generation =
    turns (fun before after : List α => ¬ before.Perm after) [] (earlier ++ [last])
  /-- The list was swapped if the last snapshot is none of them, and this raised the generation. -/
  replaced : outcome earlier last = .replaced ↔ ¬ (newest earlier).Perm last
  raised : outcome earlier last = .replaced ↔
    (displayed (earlier ++ [last])).generation = (displayed earlier).generation + 1
  /-- Else nothing happened; ids are never patched. -/
  unchanged : outcome earlier last ≠ .replaced →
    outcome earlier last = .unchanged ∧ displayed (earlier ++ [last]) = displayed earlier

theorem followsMembership (earlier : List (List α)) (last : List α) :
    FollowsMembership earlier last := by
  have hitems : (displayed (earlier ++ [last])).items = ReconciledList.ascending last := by
    rw [items_displayed, newest_concat]
  have hascending : (displayed (earlier ++ [last])).items.Pairwise (· ≤ ·) :=
    hitems ▸ ascending_pairwise last
  have hids : (displayed (earlier ++ [last])).items.Perm last := hitems ▸ ascending_perm last
  have hgeneration := generation_displayed (earlier ++ [last])
  by_cases h : (newest earlier).Perm last
  · have houtcome : outcome earlier last = .unchanged := congrArg Prod.snd (reconcile_same h)
    have hsame : displayed (earlier ++ [last]) = displayed earlier := by
      rw [displayed_concat, reconcile_same h]
    exact
      { ascending := hascending, ids := hids, generation := hgeneration
        replaced := by simp [houtcome, h]
        raised := by simp [houtcome, hsame]
        unchanged := fun _ => ⟨houtcome, hsame⟩ }
  · have houtcome : outcome earlier last = .replaced := congrArg Prod.snd (reconcile_other h)
    have hraised : (displayed (earlier ++ [last])).generation =
        (displayed earlier).generation + 1 := by
      rw [displayed_concat, reconcile_other h]
    exact
      { ascending := hascending, ids := hids, generation := hgeneration
        replaced := by simp [houtcome, h]
        raised := by simp [houtcome, hraised]
        unchanged := fun hkept => absurd houtcome hkept }

/-! ## The order of the ids -/

/-- Histories that list the same ids in other orders leave the same list. -/
theorem displayed_reordered {first second : List (List α)}
    (h : List.Forall₂ List.Perm first second) : displayed first = displayed second := by
  unfold displayed
  generalize ReconciledList.empty = list
  induction h generalizing list with
  | nil => rfl
  | cons hsnapshot _ ih =>
      rw [List.foldl_cons, List.foldl_cons, reconcileSorted_perm hsnapshot]
      exact ih _

/-- A list of ids follows the membership of its snapshots, and never the order in which these list
it. -/
theorem lists_follow_membership :
    (∀ {α : Type} [LinearOrder α] (earlier : List (List α)) (last : List α),
      FollowsMembership earlier last) ∧
    ∀ {α : Type} [LinearOrder α] (first second : List (List α)),
      List.Forall₂ List.Perm first second → displayed first = displayed second ∧
        ∀ last again : List α, last.Perm again → outcome first last = outcome second again := by
  refine ⟨followsMembership, ?_⟩
  intro α _ first second h
  have hlist := displayed_reordered h
  refine ⟨hlist, fun last again hlast => ?_⟩
  unfold outcome
  rw [hlist, reconcileSorted_perm hlast]

/-- Two clients in either order, and then one of them twice: the list was swapped two times, and in
whatever order the clients came, the one that is listed twice is displayed twice. -/
theorem repeated_id_displayed_twice :
    List.Forall₂ List.Perm [["b", "a"], ["a", "b"], ["a", "b", "a"]]
        [["a", "b"], ["b", "a"], ["b", "a", "a"]] ∧
      displayed [["b", "a"], ["a", "b"], ["a", "b", "a"]] =
        displayed [["a", "b"], ["b", "a"], ["b", "a", "a"]] ∧
      (displayed [["b", "a"], ["a", "b"], ["a", "b", "a"]]).generation = 2 ∧
      (displayed [["b", "a"], ["a", "b"], ["a", "b", "a"]]).items = ["a", "a", "b"] ∧
      outcome [["b", "a"]] ["a", "b"] = .unchanged := by
  obtain ⟨hfollows, hreordered⟩ := lists_follow_membership
  have hperm : List.Forall₂ List.Perm [["b", "a"], ["a", "b"], ["a", "b", "a"]]
      [["a", "b"], ["b", "a"], ["b", "a", "a"]] :=
    .cons (by decide) (.cons (by decide) (.cons (by decide) .nil))
  have hlast := hfollows [["b", "a"], ["a", "b"]] ["a", "b", "a"]
  have hsecond := hfollows [["b", "a"]] ["a", "b"]
  refine ⟨hperm, (hreordered _ _ hperm).1, ?_, ?_, ?_⟩
  · exact hlast.generation.trans (by decide)
  · refine List.Perm.eq_of_pairwise (fun _ _ _ _ => le_antisymm) hlast.ascending (by decide)
      (hlast.ids.trans (by decide))
  · exact (hsecond.unchanged fun hreplaced => hsecond.replaced.mp hreplaced (by decide)).1

end NfsWatch.SortedHistory
