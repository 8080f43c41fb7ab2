import NfsWatch.Proofs.Reconcile.KeyedHistory
import NfsWatch.Proofs.Server.Records

/-!
# What devices and replicas carry forward

While the ids stay, a field or an unmodelled entry that a snapshot leaves out keeps its value, so
what is shown is the latest value that came; state and colour are those of the last snapshot. Where
a value is not written over one that denotes the same, the two zeros are one, and "the same value"
is meant so for priorities and unmodelled entries.
-/

namespace NfsWatch

open Patch KeyedHistory

/-! ## What is read from the wire -/

/-- A record with the entries on the wire that it was read from. -/
structure Wired {α : Type} (decode : Json → Decoded α) where
  wire : List (String × Json)
  record : α
  sorted : Entries.Sorted wire
  decoded : decode (.obj wire) = .ok record

theorem Device.extra_decoded (wired : Wired Device.decode) :
    wired.record.extra = Decode.unmodelled Device.fields wired.wire := by
  obtain ⟨entries, hentries, _, hextra⟩ := of_decode wired.decoded
  cases hentries
  exact hextra

theorem Replica.extra_decoded (wired : Wired Replica.decode) :
    wired.record.extra = Decode.unmodelled Replica.fields wired.wire := by
  obtain ⟨entries, hentries, _, hextra⟩ := of_decode wired.decoded
  cases hentries
  exact hextra

/-! ## Unmodelled entries -/

/-- The entries shown: under each key that is no field, the latest value that came, and never one
that would shadow the colour. -/
structure EntriesCarried {α : Type} {decode : Json → Decoded α} (fields : List String)
    (records : List (Wired decode)) (extra : Table Json) : Prop where
  kept : ∀ key, key ∉ fields → key ≠ "color" →
    sameOption Json.same (extra.find? key)
      (latest (fun wired => Entries.find? key wired.wire) records) = true
  noColor : extra.find? "color" = none

section entries

variable {α : Type} {decode : Json → Decoded α} {fields : List String}

/-- The entries that a snapshot brings, without one that would shadow the colour. -/
theorem find?_brought (wired : Wired decode) {key : String} (hfield : key ∉ fields)
    (hcolor : key ≠ "color") :
    ((Decode.unmodelled fields wired.wire).erase "color").find? key =
      Entries.find? key wired.wire := by
  rw [Table.find?_erase, if_neg hcolor, Decode.find?_unmodelled fields wired.sorted,
    if_neg hfield]

theorem EntriesCarried.first (last : Wired decode) :
    EntriesCarried fields [last] ((Decode.unmodelled fields last.wire).erase "color") where
  kept := by
    intro key hfield hcolor
    rw [find?_brought last hfield hcolor, latest_singleton]
    exact sameOption_refl Json.same_refl _
  noColor := by rw [Table.find?_erase, if_pos rfl]

theorem EntriesCarried.next {records : List (Wired decode)} {extra : Table Json}
    (h : EntriesCarried fields records extra) (last : Wired decode) :
    EntriesCarried fields (records ++ [last])
      (assignExtra extra ((Decode.unmodelled fields last.wire).erase "color")).1 where
  kept := by
    intro key hfield hcolor
    rw [assignExtra_find?, find?_brought last hfield hcolor, latest_concat]
    exact assignPresentBy_same Json.same_refl (h.kept key hfield hcolor) _
  noColor := by
    rw [assignExtra_find?, Table.find?_erase, if_pos rfl, h.noColor]
    rfl

end entries

/-! ## Devices -/

instance : LawfulKeyed Device where
  key_derived := fun _ => rfl
  key_patch := fun _ _ => rfl
  patch_written := by
    intro current next
    obtain ⟨id, owner, addresses, state, totalSpace, freeSpace, availSpace, priority, color, extra⟩
      := current
    show (Device.patch _ next).2 = true ↔ (Device.patch _ next).1 ≠ _
    simp only [Device.patch, Bool.or_eq_true, assignPresent_written, assign_written,
      assignPresentBy_written Binary64.same_refl, assignExtra_written, Ne, Device.mk.injEq,
      true_and, not_and_or, or_assoc]

/-- What a device carries: the latest value of each field that came, and the state of the last
record, in its colour. -/
structure Device.Carried (records : List (Wired Device.decode)) (last : Wired Device.decode)
    (shown : Device) : Prop where
  owner : shown.owner = latest (fun wired => wired.record.owner) records
  addresses : shown.addresses = latest (fun wired => wired.record.addresses) records
  totalSpace : shown.totalSpace = latest (fun wired => wired.record.totalSpace) records
  freeSpace : shown.freeSpace = latest (fun wired => wired.record.freeSpace) records
  availSpace : shown.availSpace = latest (fun wired => wired.record.availSpace) records
  priority : sameOption Binary64.same shown.priority
    (latest (fun wired => wired.record.priority) records) = true
  state : shown.state = last.record.state
  color : shown.color = some shown.state.color
  extra : EntriesCarried Device.fields records shown.extra

theorem Device.carries : Carries Wired.record Device.Carried where
  first := by
    intro last
    have hextra := @EntriesCarried.first _ _ Device.fields last
    rw [← Device.extra_decoded] at hextra
    exact
      { owner := (latest_singleton ..).symm
        addresses := (latest_singleton ..).symm
        totalSpace := (latest_singleton ..).symm
        freeSpace := (latest_singleton ..).symm
        availSpace := (latest_singleton ..).symm
        priority := by
          rw [latest_singleton]
          exact sameOption_refl Binary64.same_refl _
        state := rfl
        color := rfl
        extra := hextra }
  next := by
    intro records older shown last h
    have hextra := h.extra.next last
    rw [← Device.extra_decoded] at hextra
    have hstate : (Device.patch shown last.record.derived).1.state = last.record.state :=
      assign_fst ..
    exact
      { owner := by rw [latest_concat, ← h.owner]; exact assignPresent_fst ..
        addresses := by rw [latest_concat, ← h.addresses]; exact assignPresent_fst ..
        totalSpace := by rw [latest_concat, ← h.totalSpace]; exact assignPresent_fst ..
        freeSpace := by rw [latest_concat, ← h.freeSpace]; exact assignPresent_fst ..
        availSpace := by rw [latest_concat, ← h.availSpace]; exact assignPresent_fst ..
        priority := by
          rw [latest_concat]
          exact assignPresentBy_same Binary64.same_refl h.priority _
        state := hstate
        color := by
          show (assign shown.color (some last.record.state.color)).1 =
            some (Device.patch shown last.record.derived).1.state.color
          rw [assign_fst, hstate]
        extra := hextra }

/-! ## Replicas -/

instance : LawfulKeyed Replica where
  key_derived := fun _ => rfl
  key_patch := fun _ _ => rfl
  patch_written := by
    intro current next
    obtain ⟨id, addresses, state, color, extra⟩ := current
    show (Replica.patch _ next).2 = true ↔ (Replica.patch _ next).1 ≠ _
    simp only [Replica.patch, Bool.or_eq_true, assignPresent_written, assign_written,
      assignExtra_written, Ne, Replica.mk.injEq, true_and, not_and_or, or_assoc]

/-- What a replica carries: the latest addresses that came, and the state of the last record, in
its colour. -/
structure Replica.Carried (records : List (Wired Replica.decode)) (last : Wired Replica.decode)
    (shown : Replica) : Prop where
  addresses : shown.addresses = latest (fun wired => wired.record.addresses) records
  state : shown.state = last.record.state
  color : shown.color = some shown.state.color
  extra : EntriesCarried Replica.fields records shown.extra

theorem Replica.carries : Carries Wired.record Replica.Carried where
  first := by
    intro last
    have hextra := @EntriesCarried.first _ _ Replica.fields last
    rw [← Replica.extra_decoded] at hextra
    exact ⟨(latest_singleton ..).symm, rfl, rfl, hextra⟩
  next := by
    intro records older shown last h
    have hextra := h.extra.next last
    rw [← Replica.extra_decoded] at hextra
    have hstate : (Replica.patch shown last.record.derived).1.state = last.record.state :=
      assign_fst ..
    refine ⟨?_, hstate, ?_, hextra⟩
    · rw [latest_concat, ← h.addresses]
      exact assignPresent_fst ..
    · show (assign shown.color (some last.record.state.color)).1 =
        some (Replica.patch shown last.record.derived).1.state.color
      rw [assign_fst, hstate]

/-- Devices and replicas follow the history of their snapshots, whatever these held. -/
theorem records_carry_forward :
    (∀ (earlier : List (List (Wired Device.decode))) (last : List (Wired Device.decode)),
      FollowsHistory Wired.record Device.Carried earlier last) ∧
    ∀ (earlier : List (List (Wired Replica.decode))) (last : List (Wired Replica.decode)),
      FollowsHistory Wired.record Replica.Carried earlier last := by
  refine ⟨?_, ?_⟩
  · intro earlier last
    exact follows_history Device.carries earlier last
  · intro earlier last
    exact follows_history Replica.carries earlier last

example : (displayed id
    [(Replica.decode (.obj [("id", .str "r"), ("note", .str "kept")])).toOption.toList,
      (Replica.decode (.obj [("id", .str "r")])).toOption.toList]).items.map
    (fun replica => replica.extra.find? "note") = [some (.str "kept")] := rfl

end NfsWatch
