import NfsWatch.Monitor.FilesystemStatus
import NfsWatch.Proofs.Monitor.History
import NfsWatch.Proofs.Reconcile.CarriedForward

/-!
# What a section remembers

A snapshot without records tells a section one thing only, that its panel is to be hidden. The
records are those of a list that never saw such a snapshot, and whether the panel is hidden can be
read off the snapshots, under either policy. Which outcome a snapshot has is said for any section
(`Section.reports`); the rest is an induction over the snapshots.
-/

namespace NfsWatch

open ReconciledList KeyedHistory

namespace Outcome

theorem and_replaced (outcome : Outcome) : outcome.and .replaced = .replaced := by
  cases outcome <;> rfl

theorem ofPatched_and (first second : Bool) :
    (ofPatched first).and (ofPatched second) = ofPatched (first || second) := by
  cases first <;> cases second <;> rfl

end Outcome

namespace ReconciledList

/-- Some record differs from the one that was at its position. -/
def RecordChanged {α : Type} (before after : List α) : Prop :=
  ∃ (i : Nat) (older newer : α), before[i]? = some older ∧ after[i]? = some newer ∧ newer ≠ older

theorem recordChanged_iff {α : Type} {before after : List α}
    (h : after.length = before.length) : RecordChanged before after ↔ after ≠ before := by
  constructor
  · rintro ⟨i, older, newer, holder, hnewer, hne⟩ heq
    rw [heq, holder] at hnewer
    exact hne (Option.some.inj hnewer).symm
  · intro hne
    by_contra hsame
    refine hne (List.ext_getElem h fun i hafter hbefore => ?_)
    by_contra hi
    exact hsame ⟨i, before[i], after[i], List.getElem?_eq_getElem hbefore,
      List.getElem?_eq_getElem hafter, hi⟩

end ReconciledList

namespace Section

variable {α : Type} [Keyed α]

/-! ## What one snapshot does -/

theorem apply_nil (current : Section α) (policy : HiddenPolicy) :
    current.apply [] policy = (⟨current.list, true⟩, .ofPatched !current.hidden) := rfl

theorem apply_records {snapshot : List α} (h : snapshot ≠ []) (current : Section α)
    (policy : HiddenPolicy) :
    current.apply snapshot policy =
      (⟨(current.list.reconcileKeyed snapshot).1, current.hidden && policy == .sticky⟩,
        (Outcome.ofPatched (current.hidden && policy == .reshow)).and
          (current.list.reconcileKeyed snapshot).2) := by
  have hrecords : snapshot.isEmpty = false := by simpa using h
  unfold apply
  rw [hrecords]
  cases current.hidden <;> cases policy <;> rfl

/-- The snapshot lists records, under other keys than those displayed. -/
def Replaces (current : Section α) (snapshot : List α) : Prop :=
  snapshot ≠ [] ∧ keys snapshot ≠ keys current.list.items

/-- The panel is hidden or shown, or a record changes where it is. -/
def Patches (current : Section α) (snapshot : List α) (policy : HiddenPolicy) : Prop :=
  (current.apply snapshot policy).1.hidden ≠ current.hidden ∨
    RecordChanged current.list.items (current.apply snapshot policy).1.list.items

/-- What a snapshot is reported to do to a section. -/
structure Reports (current : Section α) (snapshot : List α) (policy : HiddenPolicy) : Prop where
  replaced : (current.apply snapshot policy).2 = .replaced ↔ current.Replaces snapshot
  patched : (current.apply snapshot policy).2 = .patched ↔
    ¬ current.Replaces snapshot ∧ current.Patches snapshot policy
  unchanged : (current.apply snapshot policy).2 = .unchanged ↔
    ¬ current.Replaces snapshot ∧ ¬ current.Patches snapshot policy

theorem Reports.of_kept {current : Section α} {snapshot : List α} {policy : HiddenPolicy}
    {written : Bool} (hkept : ¬ current.Replaces snapshot)
    (houtcome : (current.apply snapshot policy).2 = .ofPatched written)
    (hwritten : written = true ↔ current.Patches snapshot policy) :
    current.Reports snapshot policy := by
  constructor
  · simp [houtcome, hkept]
  · simp [houtcome, hkept, hwritten]
  · rw [houtcome, Outcome.ofPatched_eq_unchanged, hwritten]
    exact (and_iff_right hkept).symm

theorem reports [LawfulKeyed α] (current : Section α) (snapshot : List α)
    (policy : HiddenPolicy) : current.Reports snapshot policy := by
  by_cases hrecords : snapshot = []
  · subst hrecords
    refine .of_kept (fun h => h.1 rfl) (congrArg Prod.snd (apply_nil current policy)) ?_
    unfold Patches
    rw [apply_nil, recordChanged_iff rfl]
    simp
  have happly := apply_records hrecords current policy
  by_cases hkeys : keys snapshot = keys current.list.items
  · -- the records stay and are patched
    have hsame : keys current.list.items = keys (snapshot.map Keyed.derived) := by
      rw [keys_derived, hkeys]
    have hlength := congrArg List.length (keys_patchAll current.list.items
      (snapshot.map Keyed.derived))
    simp only [keys, List.length_map] at hlength
    have hwritten := patchAll_written current.list.items (snapshot.map Keyed.derived)
    rw [← recordChanged_iff hlength] at hwritten
    rw [reconcileKeyed_same hsame, Outcome.ofPatched_and] at happly
    refine .of_kept (fun h => h.2 hkeys) (congrArg Prod.snd happly) ?_
    unfold Patches
    rw [happly, Bool.or_eq_true, hwritten]
    refine or_congr_left ?_
    cases current.hidden <;> cases policy <;> simp
  · have hreplaces : current.Replaces snapshot := ⟨hrecords, hkeys⟩
    have hother : keys current.list.items ≠ keys (snapshot.map Keyed.derived) := by
      rw [keys_derived]
      exact fun heq => hkeys heq.symm
    have houtcome : (current.apply snapshot policy).2 = .replaced := by
      rw [happly, reconcileKeyed_replaced hother]
      exact Outcome.and_replaced _
    constructor <;> simp [houtcome, hreplaces]

/-! ## What a run of snapshots leaves -/

/-- The section after these snapshots. -/
def shownAfter (policy : HiddenPolicy) (snapshots : List (List α)) : Section α :=
  snapshots.foldl (fun current snapshot => (current.apply snapshot policy).1) .empty

/-- The snapshots that list any records. -/
def listing (snapshots : List (List α)) : List (List α) :=
  snapshots.filter fun snapshot => !snapshot.isEmpty

/-- Whether these snapshots leave the panel hidden: if the last one was empty, and under the sticky
policy if any was. -/
def HiddenAfter (snapshots : List (List α)) : HiddenPolicy → Prop
  | .reshow => snapshots.getLast? = some []
  | .sticky => [] ∈ snapshots

theorem shownAfter_concat (policy : HiddenPolicy) (snapshots : List (List α)) (last : List α) :
    shownAfter policy (snapshots ++ [last]) =
      ((shownAfter policy snapshots).apply last policy).1 := by
  unfold shownAfter
  rw [List.foldl_append]
  rfl

theorem list_shownAfter (policy : HiddenPolicy) (snapshots : List (List α)) :
    (shownAfter policy snapshots).list = displayed id (listing snapshots) := by
  induction snapshots using List.reverseRecOn with
  | nil => rfl
  | append_singleton snapshots last ih =>
      rw [shownAfter_concat]
      by_cases hrecords : last = []
      · subst hrecords
        rw [apply_nil, ih]
        simp [listing]
      · have hlisting : listing (snapshots ++ [last]) = listing snapshots ++ [last] := by
          simp [listing, hrecords]
        rw [apply_records hrecords, ih, hlisting, displayed_concat, List.map_id]

theorem hidden_shownAfter (policy : HiddenPolicy) (snapshots : List (List α)) :
    (shownAfter policy snapshots).hidden = true ↔ HiddenAfter snapshots policy := by
  induction snapshots using List.reverseRecOn with
  | nil => cases policy <;> simp [shownAfter, empty, HiddenAfter]
  | append_singleton snapshots last ih =>
      rw [shownAfter_concat]
      by_cases hrecords : last = []
      · subst hrecords
        cases policy <;> simp [apply_nil, HiddenAfter]
      · rw [apply_records hrecords]
        cases policy with
        | reshow => simp [HiddenAfter, hrecords]
        | sticky => simpa [HiddenAfter, Ne.symm hrecords] using ih

/-- What a section is after a run of snapshots, and what the next one does to it. -/
structure FollowsSnapshots (policy : HiddenPolicy) (snapshots : List (List α)) : Prop where
  /-- The list has only seen the snapshots with records. -/
  list : (shownAfter policy snapshots).list = displayed id (listing snapshots)
  hidden : (shownAfter policy snapshots).hidden = true ↔ HiddenAfter snapshots policy
  next : ∀ snapshot, (shownAfter policy snapshots).Reports snapshot policy

theorem followsSnapshots [LawfulKeyed α] (policy : HiddenPolicy) (snapshots : List (List α)) :
    FollowsSnapshots policy snapshots where
  list := list_shownAfter policy snapshots
  hidden := hidden_shownAfter policy snapshots
  next := fun snapshot => reports _ snapshot policy

end Section

/-! ## The sections of the file system -/

namespace FilesystemStatus

/-- Both sections are left by their own parts of the snapshots, and the capacity by the last one. -/
theorem polled_parts (policy : HiddenPolicy) (snapshots : List FilesystemSnapshot) :
    (monitor policy).polled (monitor policy).initial snapshots =
      ⟨snapshots.getLast?.elim .empty FilesystemSnapshot.stats,
        Section.shownAfter policy (snapshots.map FilesystemSnapshot.devices),
        Section.shownAfter policy (snapshots.map FilesystemSnapshot.replicas)⟩ := by
  induction snapshots using List.reverseRecOn with
  | nil => rfl
  | append_singleton snapshots last ih =>
      rw [Monitor.polled_concat, ih, List.map_append, List.map_append, List.getLast?_concat]
      simp only [List.map_cons, List.map_nil, Section.shownAfter_concat]
      show View.mk (FsStats.patch _ last.stats).1 _ _ = _
      rw [FsStats.patch_fst]
      rfl

end FilesystemStatus

/-- A section is determined by its snapshots with records and by when the others came, and each
snapshot is reported for what it does. In the file system each of the two sections is so on its own,
whatever the other one and the capacity are, and the capacity is that of the last snapshot. -/
theorem sections_follow_snapshots :
    (∀ {α : Type} [Keyed α] [LawfulKeyed α] (policy : HiddenPolicy) (snapshots : List (List α)),
      Section.FollowsSnapshots policy snapshots) ∧
    ∀ (policy : HiddenPolicy) (snapshots : List FilesystemSnapshot),
      (FilesystemStatus.monitor policy).polled (FilesystemStatus.monitor policy).initial snapshots =
        ⟨snapshots.getLast?.elim .empty FilesystemSnapshot.stats,
          Section.shownAfter policy (snapshots.map FilesystemSnapshot.devices),
          Section.shownAfter policy (snapshots.map FilesystemSnapshot.replicas)⟩ :=
  ⟨Section.followsSnapshots, FilesystemStatus.polled_parts⟩

/-- A device that is listed with an owner, then no device at all, then the device again without
one. -/
def flickering : List (List Device) :=
  let device : Device :=
    { id := "d", owner := some "ops", addresses := none, state := .healthy, totalSpace := none
      freeSpace := none, availSpace := none, priority := none, color := none, extra := .empty }
  [[device], [], [{ device with owner := none }]]

/-- The device is displayed all along and keeps its owner. The panel is shown again at the end, and
under the sticky policy it is not. -/
theorem hidden_panel_keeps_records :
    LawfulKeyed Device ∧
      (Section.shownAfter .reshow flickering).list.generation = 1 ∧
      (Section.shownAfter .reshow flickering).list.items.map Device.owner = [some "ops"] ∧
      (Section.shownAfter .reshow (flickering.take 2)).hidden = true ∧
      (Section.shownAfter .reshow flickering).hidden = false ∧
      (Section.shownAfter .sticky flickering).hidden = true := by
  obtain ⟨hsections, _⟩ := sections_follow_snapshots
  have hreshow := @hsections Device _ _ .reshow flickering
  have hbefore := @hsections Device _ _ .reshow (flickering.take 2)
  have hsticky := @hsections Device _ _ .sticky flickering
  refine ⟨inferInstance, ?_, ?_, ?_, ?_, ?_⟩
  · rw [hreshow.list]
    decide +kernel
  · rw [hreshow.list]
    decide +kernel
  · exact hbefore.hidden.mpr rfl
  · rw [Bool.eq_false_iff, Ne, hreshow.hidden]
    exact fun h => nomatch h
  · exact hsticky.hidden.mpr (by simp [Section.HiddenAfter, flickering])

end NfsWatch
