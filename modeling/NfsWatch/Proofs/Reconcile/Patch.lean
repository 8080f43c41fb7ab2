import NfsWatch.Proofs.Decode
import NfsWatch.Reconcile.Field

/-!
# What patching one field does

Each rule is given by two facts: what the field holds afterwards, and that the flag is up exactly
if the field no longer holds what it held. Merging entries key by key is the rule for a value that
may be missing, applied to each key on its own (`assignExtra_find?`).
-/

namespace NfsWatch

/-! ## Values that denote the same -/

mutual

theorem Json.same_refl : ∀ value : Json, value.same value = true
  | .null => rfl
  | .bool value => by simp [Json.same]
  | .int value => by simp [Json.same]
  | .float value => by simp [Json.same]
  | .str value => by simp [Json.same]
  | .arr items => by
      rw [Json.same]
      exact Json.sameItems_refl items
  | .obj entries => by
      rw [Json.same]
      exact Json.sameEntries_refl entries

theorem Json.sameItems_refl : ∀ items : List Json, Json.sameItems items items = true
  | [] => rfl
  | item :: rest => by simp [Json.sameItems, Json.same_refl item, Json.sameItems_refl rest]

theorem Json.sameEntries_refl :
    ∀ entries : List (String × Json), Json.sameEntries entries entries = true
  | [] => rfl
  | (key, value) :: rest => by
      simp [Json.sameEntries, Json.same_refl value, Json.sameEntries_refl rest]

end

namespace Patch

variable {α : Type}

@[simp] theorem sameOption_some (same : α → α → Bool) (first second : α) :
    sameOption same (some first) (some second) = same first second := rfl

section refl

variable {same : α → α → Bool} (hrefl : ∀ value, same value value = true)
include hrefl

theorem sameOption_refl (value : Option α) : sameOption same value value = true := by
  cases value with
  | none => rfl
  | some value => exact hrefl value

/-! ## Fields -/

theorem assignBy_written (slot value : α) :
    (assignBy same slot value).2 = true ↔ (assignBy same slot value).1 ≠ slot := by
  unfold assignBy
  by_cases h : same slot value = true
  · simp [h]
  · have hne : value ≠ slot := by
      intro heq
      exact h (heq ▸ hrefl slot)
    simp [h, hne]

theorem assignPresentBy_written (slot value : Option α) :
    (assignPresentBy same slot value).2 = true ↔ (assignPresentBy same slot value).1 ≠ slot := by
  cases value with
  | none => simp [assignPresentBy]
  | some value => exact assignBy_written (sameOption_refl hrefl) slot (some value)

/-- A field that denotes what it should, patched, denotes the value of the snapshot if this has
one, and what it should have otherwise. -/
theorem assignPresentBy_same {slot older : Option α} (h : sameOption same slot older = true)
    (value : Option α) :
    sameOption same (assignPresentBy same slot value).1 (value.or older) = true := by
  cases value with
  | none => exact h
  | some value =>
      show sameOption same (assignBy _ slot (some value)).1 (some value) = true
      unfold assignBy
      by_cases hsame : sameOption same slot (some value) = true
      · simp only [hsame, if_true]
      · simp only [hsame, Bool.false_eq_true, if_false]
        exact hrefl value

end refl

/-- A field that always follows the snapshot holds its value afterwards. -/
@[simp] theorem assign_fst [DecidableEq α] (slot value : α) : (assign slot value).1 = value := by
  by_cases h : slot = value <;> simp [assign, assignBy, h]

theorem assign_written [DecidableEq α] (slot value : α) :
    (assign slot value).2 = true ↔ (assign slot value).1 ≠ slot :=
  assignBy_written (fun value => beq_self_eq_true value) slot value

/-- A field that may be missing holds the value of the snapshot if this has one. -/
@[simp] theorem assignPresent_fst [DecidableEq α] (slot value : Option α) :
    (assignPresent slot value).1 = value.or slot := by
  cases value with
  | none => rfl
  | some value =>
      cases slot with
      | none => rfl
      | some current =>
          by_cases h : current = value <;>
            simp [assignPresent, assignPresentBy, assignBy, sameOption, h]

theorem assignPresent_written [DecidableEq α] (slot value : Option α) :
    (assignPresent slot value).2 = true ↔ (assignPresent slot value).1 ≠ slot :=
  assignPresentBy_written (fun value => beq_self_eq_true value) slot value

/-! ## Entries -/

/-- Writing an entry does to its key what patching does to a field. -/
theorem assignEntry_eq (table : Table Json) (written : Bool) (key : String) (value : Json) :
    (assignEntry (table, written) (key, value)).2 =
        (written || (assignPresentBy Json.same (table.find? key) (some value)).2) ∧
      ∀ other, (assignEntry (table, written) (key, value)).1.find? other =
        if key = other then (assignPresentBy Json.same (table.find? key) (some value)).1
        else table.find? other := by
  unfold assignEntry
  cases hfind : table.find? key with
  | none =>
      refine ⟨by simp [assignPresentBy, assignBy, sameOption], ?_⟩
      intro other
      exact Table.find?_insert table key other value
  | some current =>
      by_cases hsame : current.same value = true
      · simp only [hsame, if_true, assignPresentBy, assignBy, sameOption_some]
        refine ⟨by simp, ?_⟩
        intro other
        split
        · rename_i heq
          rw [← heq, hfind]
        · rfl
      · simp only [hsame, Bool.false_eq_true, if_false, assignPresentBy, assignBy, sameOption_some]
        refine ⟨by simp, ?_⟩
        intro other
        exact Table.find?_insert table key other value

/-- Writing entries does so to each of their keys, and the flag tells whether it did to any. -/
theorem foldl_assignEntry {entries : List (String × Json)} (hsorted : Entries.Sorted entries)
    (table : Table Json) (written : Bool) :
    (∀ key, (entries.foldl assignEntry (table, written)).1.find? key =
        (assignPresentBy Json.same (table.find? key) (Entries.find? key entries)).1) ∧
      ((entries.foldl assignEntry (table, written)).2 = true ↔ written = true ∨
        ∃ key, (assignPresentBy Json.same (table.find? key)
          (Entries.find? key entries)).2 = true) := by
  induction entries generalizing table written with
  | nil => exact ⟨fun _ => rfl, by simp [assignPresentBy, Entries.find?]⟩
  | cons entry rest ih =>
      obtain ⟨first, value⟩ := entry
      have hrest := (List.pairwise_cons.mp hsorted).2
      obtain ⟨hflag, hfind⟩ := assignEntry_eq table written first value
      -- the keys differ, so the rest does not touch the first key
      have hgone : Entries.find? first rest = none := hsorted.find?_first
      obtain ⟨ihfind, ihflag⟩ := ih hrest (assignEntry (table, written) (first, value)).1
        (assignEntry (table, written) (first, value)).2
      rw [List.foldl_cons]
      refine ⟨?_, ihflag.trans ?_⟩
      · intro key
        rw [ihfind, hfind]
        by_cases hkey : first = key
        · subst hkey
          simp [hgone, Entries.find?, assignPresentBy]
        · simp [Entries.find?, hkey]
      · rw [hflag, Bool.or_eq_true, or_assoc]
        refine or_congr_right ?_
        constructor
        · rintro (hwritten | ⟨key, hwritten⟩)
          · exact ⟨first, by simpa [Entries.find?] using hwritten⟩
          · rw [hfind] at hwritten
            by_cases hkey : first = key
            · subst hkey
              simp [hgone, assignPresentBy] at hwritten
            · exact ⟨key, by simpa [Entries.find?, hkey] using hwritten⟩
        · rintro ⟨key, hwritten⟩
          by_cases hkey : first = key
          · subst hkey
            exact Or.inl (by simpa [Entries.find?] using hwritten)
          · refine Or.inr ⟨key, ?_⟩
            rw [hfind]
            simpa [Entries.find?, hkey] using hwritten

theorem assignExtra_find? (slot value : Table Json) (key : String) :
    (assignExtra slot value).1.find? key =
      (assignPresentBy Json.same (slot.find? key) (value.find? key)).1 :=
  (foldl_assignEntry value.sorted slot false).1 key

/-- The flag tells whether any key was written. -/
theorem assignExtra_flag (slot value : Table Json) :
    (assignExtra slot value).2 = true ↔
      ∃ key, (assignPresentBy Json.same (slot.find? key) (value.find? key)).2 = true := by
  refine (foldl_assignEntry value.sorted slot false).2.trans ?_
  simp only [Bool.false_eq_true, false_or]
  rfl

theorem assignExtra_written (slot value : Table Json) :
    (assignExtra slot value).2 = true ↔ (assignExtra slot value).1 ≠ slot := by
  rw [assignExtra_flag]
  constructor
  · rintro ⟨key, hwritten⟩ heq
    rw [assignPresentBy_written Json.same_refl, ← assignExtra_find?, heq] at hwritten
    exact hwritten rfl
  · intro hne
    rcases Classical.em (∃ key,
      (assignPresentBy Json.same (slot.find? key) (value.find? key)).2 = true) with hsome | hnone
    · exact hsome
    · refine absurd (Table.ext_find? fun key => ?_) hne
      rw [assignExtra_find?]
      exact Classical.not_not.mp fun hkey =>
        hnone ⟨key, (assignPresentBy_written Json.same_refl _ _).mpr hkey⟩

end Patch

end NfsWatch
