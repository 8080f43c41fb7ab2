import Mathlib.Data.List.DropRight
import Mathlib.Data.List.Induction
import NfsWatch.Proofs.Reconcile.Displayed

/-!
# What a list reconciled by key remembers

Fed with snapshots from empty on, such a list shows the ids of the last snapshot, its generation
counts the snapshots whose ids differ from those before, and each record carries what the records
at its position brought since then. `follows_history` says so for any kind of records whose patch
keeps the key and tells truly whether it wrote anything; what is carried is left to the kind.
-/

namespace NfsWatch

/-- Records whose key neither deriving nor patching touches, and whose patch tells whether the
record changed. -/
class LawfulKeyed (α : Type) [Keyed α] : Prop where
  key_derived : ∀ record : α, Keyed.key (Keyed.derived record) = Keyed.key record
  key_patch : ∀ current next : α, Keyed.key (Keyed.patch current next).1 = Keyed.key current
  patch_written : ∀ current next : α,
    (Keyed.patch current next).2 = true ↔ (Keyed.patch current next).1 ≠ current

namespace Outcome

@[simp] theorem ofPatched_eq_patched (patched : Bool) :
    ofPatched patched = .patched ↔ patched = true := by
  cases patched <;> decide

@[simp] theorem ofPatched_eq_unchanged (patched : Bool) :
    ofPatched patched = .unchanged ↔ ¬ patched = true := by
  cases patched <;> decide

@[simp] theorem ofPatched_ne_replaced (patched : Bool) : ofPatched patched ≠ .replaced := by
  cases patched <;> decide

end Outcome

/-! ## Patching all records -/

namespace ReconciledList

variable {α : Type} [Keyed α] [LawfulKeyed α]

theorem keys_derived (records : List α) : keys (records.map Keyed.derived) = keys records := by
  unfold keys
  rw [List.map_map]
  exact List.map_congr_left fun record _ => LawfulKeyed.key_derived record

theorem keys_patchAll (current incoming : List α) :
    keys (patchAll current incoming).1 = keys current := by
  induction current generalizing incoming with
  | nil => cases incoming <;> rfl
  | cons record rest ih =>
      cases incoming with
      | nil => rfl
      | cons next more =>
          show Keyed.key (Keyed.patch record next).1 :: keys (patchAll rest more).1 = _
          rw [LawfulKeyed.key_patch, ih]
          rfl

theorem patchAll_written (current incoming : List α) :
    (patchAll current incoming).2 = true ↔ (patchAll current incoming).1 ≠ current := by
  induction current generalizing incoming with
  | nil => cases incoming <;> simp [patchAll]
  | cons record rest ih =>
      cases incoming with
      | nil => simp [patchAll]
      | cons next more =>
          show ((Keyed.patch record next).2 || (patchAll rest more).2) = true ↔
            (Keyed.patch record next).1 :: (patchAll rest more).1 ≠ record :: rest
          rw [Bool.or_eq_true, LawfulKeyed.patch_written, ih, Ne, Ne, Ne, List.cons_eq_cons,
            ← not_and_or]

omit [LawfulKeyed α] in
/-- Each record is patched from its counterpart. -/
theorem patchAll_getElem? {current incoming : List α} (h : keys current = keys incoming) {i : Nat}
    {shown : α} (hshown : (patchAll current incoming).1[i]? = some shown) :
    ∃ record next, current[i]? = some record ∧ incoming[i]? = some next ∧
      shown = (Keyed.patch record next).1 := by
  induction current generalizing incoming i with
  | nil => cases incoming <;> exact nomatch hshown
  | cons record rest ih =>
      cases incoming with
      | nil => exact nomatch h
      | cons next more =>
          cases i with
          | zero => exact ⟨record, next, rfl, rfl, (Option.some.inj hshown).symm⟩
          | succ i => exact ih (List.cons.inj h).2 hshown

end ReconciledList

/-! ## Histories of snapshots -/

namespace KeyedHistory

open ReconciledList

variable {α β γ : Type}

/-- The last snapshot; before the first one it counts as empty. -/
def newest (snapshots : List (List β)) : List β := snapshots.getLast?.getD []

/-- How many entries of a history differ from the one before; `start` stands before the first. -/
def turns (Differs : β → β → Prop) [DecidableRel Differs] (start : β) (history : List β) : Nat :=
  ((start :: history).zip history).countP fun step => Differs step.1 step.2

/-- The records at one position in these snapshots, oldest first. -/
def column (i : Nat) (snapshots : List (List β)) : List β :=
  snapshots.filterMap fun snapshot => snapshot[i]?

/-- The value of the latest of these records that have it; none if none has. -/
def latest (value : β → Option γ) (records : List β) : Option γ :=
  (records.filterMap value).getLast?

section snapshots

variable [Keyed α] (record : β → α)

/-- What is displayed after these snapshots, from empty on. -/
def displayed (snapshots : List (List β)) : ReconciledList α :=
  snapshots.foldl (fun list snapshot => (list.reconcileKeyed (snapshot.map record)).1) .empty

/-- What one more snapshot does. -/
def outcome (earlier : List (List β)) (last : List β) : Outcome :=
  ((displayed record earlier).reconcileKeyed (last.map record)).2

/-- The ids in a snapshot, in order. -/
def ids (snapshot : List β) : List String := keys (snapshot.map record)

/-- The snapshots since the ids changed: the longest run at the end that has the ids of the last
snapshot throughout. -/
def sinceChange (snapshots : List (List β)) : List (List β) :=
  snapshots.rtakeWhile fun snapshot => ids record snapshot = ids record (newest snapshots)

/-- The number of snapshots whose ids differ from those of the one before, the first one being
compared with an empty one. -/
def changes (snapshots : List (List β)) : Nat :=
  (([] :: snapshots).zip snapshots).countP fun step => ids record step.1 ≠ ids record step.2

end snapshots

@[simp] theorem newest_concat (snapshots : List (List β)) (last : List β) :
    newest (snapshots ++ [last]) = last := by
  simp [newest]

theorem turns_concat (Differs : β → β → Prop) [DecidableRel Differs] (start : β)
    (history : List β) (last : β) :
    turns Differs start (history ++ [last]) =
      turns Differs start history +
        if Differs (history.getLast?.getD start) last then 1 else 0 := by
  unfold turns
  induction history generalizing start with
  | nil => by_cases h : Differs start last <;> simp [h]
  | cons first rest ih =>
      rw [List.cons_append, List.zip_cons_cons, List.zip_cons_cons, List.countP_cons,
        List.countP_cons, ih first, List.getLast?_cons, Option.getD_some]
      omega

/-- What is counted of the entries may be read off the history itself. -/
theorem turns_map (read : γ → β) (Differs : β → β → Prop) [DecidableRel Differs] (start : γ)
    (history : List γ) :
    turns Differs (read start) (history.map read) =
      turns (fun before after => Differs (read before) (read after)) start history := by
  unfold turns
  rw [← List.map_cons, List.zip_map, List.countP_map]
  rfl

/-- Two ways to tell entries apart that agree count the same. -/
theorem turns_congr {Differs Other : β → β → Prop} [DecidableRel Differs] [DecidableRel Other]
    (h : ∀ before after, Differs before after ↔ Other before after) (start : β)
    (history : List β) : turns Differs start history = turns Other start history := by
  unfold turns
  refine List.countP_congr fun step _ => ?_
  rw [decide_eq_true_iff, decide_eq_true_iff, h]

theorem column_concat (i : Nat) (snapshots : List (List β)) (last : List β) :
    column i (snapshots ++ [last]) = column i snapshots ++ last[i]?.toList := by
  unfold column
  rw [List.filterMap_append]
  cases h : last[i]? <;> simp [h]

@[simp] theorem latest_singleton (value : β → Option γ) (last : β) :
    latest value [last] = value last := by
  unfold latest
  cases h : value last <;> simp [h]

@[simp] theorem latest_concat (value : β → Option γ) (records : List β) (last : β) :
    latest value (records ++ [last]) = (value last).or (latest value records) := by
  unfold latest
  rw [List.filterMap_append]
  cases h : value last <;> simp [h]

section snapshots

variable [Keyed α] {record : β → α}

theorem displayed_concat (snapshots : List (List β)) (last : List β) :
    displayed record (snapshots ++ [last]) =
      ((displayed record snapshots).reconcileKeyed (last.map record)).1 := by
  unfold displayed
  rw [List.foldl_append]
  rfl

theorem sinceChange_same {snapshots : List (List β)} {last : List β}
    (h : ids record (newest snapshots) = ids record last) :
    sinceChange record (snapshots ++ [last]) = sinceChange record snapshots ++ [last] := by
  unfold sinceChange
  rw [newest_concat, List.rtakeWhile_concat, if_pos (decide_eq_true rfl), h]

theorem sinceChange_other {snapshots : List (List β)} {last : List β}
    (h : ids record (newest snapshots) ≠ ids record last) :
    sinceChange record (snapshots ++ [last]) = [last] := by
  unfold sinceChange
  rw [newest_concat, List.rtakeWhile_concat, if_pos (decide_eq_true rfl)]
  have hnone :
      snapshots.rtakeWhile (fun snapshot => ids record snapshot = ids record last) = [] := by
    rw [List.rtakeWhile_eq_nil_iff]
    intro hne
    have hnewest : newest snapshots = snapshots.getLast hne := by
      unfold newest
      rw [List.getLast?_eq_some_getLast hne, Option.getD_some]
    rw [← hnewest]
    simpa using h
  rw [hnone, List.nil_append]

theorem changes_concat (snapshots : List (List β)) (last : List β) :
    changes record (snapshots ++ [last]) = changes record snapshots +
      if ids record (newest snapshots) = ids record last then 0 else 1 := by
  refine (turns_concat (fun before after => ids record before ≠ ids record after) []
    snapshots last).trans ?_
  rw [ite_not]
  rfl

/-- The snapshots since the ids changed are the longest run at the end that has the ids of the last
snapshot: all of it has them, and the snapshot before it, if there is one, has others. -/
theorem sinceChange_longest (snapshots : List (List β)) :
    (∀ snapshot ∈ sinceChange record snapshots,
        ids record snapshot = ids record (newest snapshots)) ∧
      ∃ before, snapshots = before ++ sinceChange record snapshots ∧
        ∀ snapshot ∈ before.getLast?, ids record snapshot ≠ ids record (newest snapshots) := by
  refine ⟨?_, snapshots.rdropWhile fun snapshot =>
    ids record snapshot = ids record (newest snapshots), ?_, ?_⟩
  · intro snapshot hmem
    simpa using List.mem_rtakeWhile_imp hmem
  · exact (List.rdropWhile_append_rtakeWhile ..).symm
  · intro snapshot hmem
    obtain ⟨hne, rfl⟩ := List.mem_getLast?_eq_getLast hmem
    simpa using List.rdropWhile_last_not _ _ hne

/-! ## What the list shows -/

/-- How the records of one kind carry forward what snapshots bring. `Carried records last shown`
says what the record shown has of those that came since the ids changed, the last of them being
`last`. -/
structure Carries (record : β → α) (Carried : List β → β → α → Prop) : Prop where
  first : ∀ last, Carried [last] last (Keyed.derived (record last))
  next : ∀ {records older shown} (last), Carried records older shown →
    Carried (records ++ [last]) last (Keyed.patch shown (Keyed.derived (record last))).1

/-- What is displayed after a history of snapshots, and what the last of them did. -/
structure FollowsHistory (record : β → α) (Carried : List β → β → α → Prop)
    (earlier : List (List β)) (last : List β) : Prop where
  /-- The ids are those of the last snapshot. -/
  shown_ids : keys (displayed record (earlier ++ [last])).items = ids record last
  /-- The generation counts the snapshots with other ids than before. -/
  generation : (displayed record (earlier ++ [last])).generation =
    changes record (earlier ++ [last])
  /-- The snapshots since the ids changed are as many as can be. -/
  since : (∀ snapshot ∈ sinceChange record (earlier ++ [last]),
      ids record snapshot = ids record last) ∧
    ∃ before, earlier ++ [last] = before ++ sinceChange record (earlier ++ [last]) ∧
      ∀ snapshot ∈ before.getLast?, ids record snapshot ≠ ids record last
  /-- Each record carries what came at its position in them. -/
  carried : ∀ i shown, (displayed record (earlier ++ [last])).items[i]? = some shown →
    ∃ current, last[i]? = some current ∧
      Carried (column i (sinceChange record (earlier ++ [last]))) current shown
  /-- The list was swapped if the ids are others than before. -/
  replaced : outcome record earlier last = .replaced ↔
    ids record last ≠ ids record (newest earlier)
  /-- It was patched if the ids are the same and what is displayed is not. -/
  patched : outcome record earlier last = .patched ↔
    ids record last = ids record (newest earlier) ∧
      (displayed record (earlier ++ [last])).items ≠ (displayed record earlier).items
  /-- Else nothing happened. -/
  unchanged : outcome record earlier last = .unchanged ↔
    ids record last = ids record (newest earlier) ∧
      (displayed record (earlier ++ [last])).items = (displayed record earlier).items

variable [LawfulKeyed α]

theorem keys_displayed (snapshots : List (List β)) :
    keys (displayed record snapshots).items = ids record (newest snapshots) := by
  induction snapshots using List.reverseRecOn with
  | nil => rfl
  | append_singleton snapshots last _ =>
      rw [displayed_concat, newest_concat]
      by_cases h : keys (displayed record snapshots).items =
        keys ((last.map record).map Keyed.derived)
      · rw [reconcileKeyed_same h]
        show keys (patchAll _ _).1 = _
        rw [keys_patchAll, h, keys_derived]
        rfl
      · rw [reconcileKeyed_replaced h]
        exact keys_derived _

/-- A snapshot with the ids of the one before is patched in. -/
theorem displayed_same {earlier : List (List β)} {last : List β}
    (h : ids record (newest earlier) = ids record last) :
    keys (displayed record earlier).items = keys ((last.map record).map Keyed.derived) := by
  rw [keys_displayed, keys_derived, h]
  rfl

/-- One with other ids is adopted. -/
theorem displayed_other {earlier : List (List β)} {last : List β}
    (h : ids record (newest earlier) ≠ ids record last) :
    keys (displayed record earlier).items ≠ keys ((last.map record).map Keyed.derived) := by
  rw [keys_displayed, keys_derived]
  exact h

theorem generation_displayed (snapshots : List (List β)) :
    (displayed record snapshots).generation = changes record snapshots := by
  induction snapshots using List.reverseRecOn with
  | nil => rfl
  | append_singleton snapshots last ih =>
      rw [displayed_concat, changes_concat]
      by_cases h : ids record (newest snapshots) = ids record last
      · rw [reconcileKeyed_same (displayed_same h), if_pos h, ← ih]
        rfl
      · rw [reconcileKeyed_replaced (displayed_other h), if_neg h, ← ih]

theorem carried_displayed {Carried : List β → β → α → Prop} (h : Carries record Carried)
    (snapshots : List (List β)) {i : Nat} {shown : α}
    (hshown : (displayed record snapshots).items[i]? = some shown) :
    ∃ current, (newest snapshots)[i]? = some current ∧
      Carried (column i (sinceChange record snapshots)) current shown := by
  induction snapshots using List.reverseRecOn generalizing shown with
  | nil => exact nomatch hshown
  | append_singleton snapshots last ih =>
      rw [displayed_concat] at hshown
      rw [newest_concat]
      -- with the ids as before each record is patched, and with others its history starts anew
      by_cases hids : ids record (newest snapshots) = ids record last
      · rw [reconcileKeyed_same (displayed_same hids)] at hshown
        obtain ⟨before, incoming, hbefore, hincoming, rfl⟩ :=
          patchAll_getElem? (displayed_same hids) hshown
        obtain ⟨older, _, hcarried⟩ := ih hbefore
        rw [List.map_map, List.getElem?_map] at hincoming
        obtain ⟨current, hcurrent, rfl⟩ := Option.map_eq_some_iff.mp hincoming
        refine ⟨current, hcurrent, ?_⟩
        rw [sinceChange_same hids, column_concat, hcurrent]
        exact h.next current hcarried
      · rw [reconcileKeyed_replaced (displayed_other hids)] at hshown
        change (List.map _ _)[i]? = _ at hshown
        rw [List.map_map, List.getElem?_map] at hshown
        obtain ⟨current, hcurrent, rfl⟩ := Option.map_eq_some_iff.mp hshown
        refine ⟨current, hcurrent, ?_⟩
        rw [sinceChange_other hids]
        show Carried (column i ([] ++ [last])) current _
        rw [column_concat, hcurrent]
        exact h.first current

/-- A list reconciled by key follows the history of its snapshots. -/
theorem follows_history {Carried : List β → β → α → Prop} (h : Carries record Carried)
    (earlier : List (List β)) (last : List β) : FollowsHistory record Carried earlier last := by
  have hcarried : ∀ i shown, (displayed record (earlier ++ [last])).items[i]? = some shown →
      ∃ current, last[i]? = some current ∧
        Carried (column i (sinceChange record (earlier ++ [last]))) current shown := by
    intro i shown hshown
    simpa using carried_displayed h (earlier ++ [last]) hshown
  have hids : keys (displayed record (earlier ++ [last])).items = ids record last := by
    rw [keys_displayed, newest_concat]
  have hsince := @sinceChange_longest _ _ _ record (earlier ++ [last])
  rw [newest_concat] at hsince
  by_cases hsame : ids record (newest earlier) = ids record last
  · have houtcome : outcome record earlier last =
        .ofPatched (patchAll (displayed record earlier).items
          ((last.map record).map Keyed.derived)).2 := by
      unfold outcome
      rw [reconcileKeyed_same (displayed_same hsame)]
    have hitems : (displayed record (earlier ++ [last])).items =
        (patchAll (displayed record earlier).items ((last.map record).map Keyed.derived)).1 := by
      rw [displayed_concat, reconcileKeyed_same (displayed_same hsame)]
    have hwritten := patchAll_written (displayed record earlier).items
      ((last.map record).map Keyed.derived)
    rw [← hitems] at hwritten
    refine ⟨hids, generation_displayed _, hsince, hcarried, ?_, ?_, ?_⟩
    · simp [houtcome, hsame]
    · rw [houtcome, Outcome.ofPatched_eq_patched, hwritten]
      exact (and_iff_right hsame.symm).symm
    · rw [houtcome, Outcome.ofPatched_eq_unchanged, hwritten, Ne, not_not]
      exact (and_iff_right hsame.symm).symm
  · have houtcome : outcome record earlier last = .replaced := by
      unfold outcome
      rw [reconcileKeyed_replaced (displayed_other hsame)]
    refine ⟨hids, generation_displayed _, hsince, hcarried, ?_, ?_, ?_⟩
    · simp [houtcome, Ne.symm hsame]
    · simp [houtcome, Ne.symm hsame]
    · simp [houtcome, Ne.symm hsame]

end snapshots

end KeyedHistory

end NfsWatch
