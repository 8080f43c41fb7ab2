import NfsWatch.Proofs.Reconcile.SectionHistory

/-!
# Snapshots that list the same records in another order

A section compares ids position by position, and nothing puts the records of a snapshot in an order
before that. So a snapshot with the very ids that are displayed is merged into the records only if
it lists them in the order in which they are displayed. In any other order the section is replaced,
its generation moves although its membership did not, and what only the records displayed still knew
is lost (`owner_lost_in_other_order`).
-/

namespace NfsWatch

open Patch ReconciledList

/-! ## What a merged record keeps -/

/-- What the record of a snapshot leaves out is shown as it was before. -/
structure Device.Keeps (older next shown : Device) : Prop where
  owner : next.owner = none → shown.owner = older.owner
  addresses : next.addresses = none → shown.addresses = older.addresses
  totalSpace : next.totalSpace = none → shown.totalSpace = older.totalSpace
  freeSpace : next.freeSpace = none → shown.freeSpace = older.freeSpace
  availSpace : next.availSpace = none → shown.availSpace = older.availSpace
  priority : next.priority = none → shown.priority = older.priority
  extra : ∀ key, next.extra.find? key = none → shown.extra.find? key = older.extra.find? key

structure Replica.Keeps (older next shown : Replica) : Prop where
  addresses : next.addresses = none → shown.addresses = older.addresses
  extra : ∀ key, next.extra.find? key = none → shown.extra.find? key = older.extra.find? key

namespace Patch

variable {α : Type}

theorem assignPresent_missing [DecidableEq α] (slot : Option α) {value : Option α}
    (h : value = none) : (assignPresent slot value).1 = slot := by
  rw [assignPresent_fst, h, Option.none_or]

theorem assignExtra_missing (slot value : Table Json) {key : String}
    (h : value.find? key = none) :
    (assignExtra slot (value.erase "color")).1.find? key = slot.find? key := by
  have hnone : (value.erase "color").find? key = none := by
    rw [Table.find?_erase, h, ite_self]
  rw [assignExtra_find?, hnone]
  rfl

end Patch

theorem Device.keeps_patched (older next : Device) :
    Device.Keeps older next (older.patch next.derived).1 where
  owner := assignPresent_missing _
  addresses := assignPresent_missing _
  totalSpace := assignPresent_missing _
  freeSpace := assignPresent_missing _
  availSpace := assignPresent_missing _
  priority := by
    intro h
    show (assignPresentBy Binary64.same older.priority next.priority).1 = older.priority
    rw [h]
    rfl
  extra := fun _ => assignExtra_missing _ _

theorem Replica.keeps_patched (older next : Replica) :
    Replica.Keeps older next (older.patch next.derived).1 where
  addresses := assignPresent_missing _
  extra := fun _ => assignExtra_missing _ _

/-! ## Sections -/

namespace Section

variable {α : Type} [Keyed α]

/-- The section is not replaced by the snapshot, and each record that it displays is still there and
keeps what the record of its id leaves out. -/
structure KeepsRecords (Keeps : α → α → α → Prop) (before after : Section α)
    (snapshot : List α) : Prop where
  generation : after.list.generation = before.list.generation
  ids : keys after.list.items = keys before.list.items
  records : ∀ older ∈ before.list.items, ∀ next ∈ snapshot, Keyed.key next = Keyed.key older →
    ∃ shown ∈ after.list.items, Keyed.key shown = Keyed.key older ∧ Keeps older next shown

/-- What becomes of a section when a snapshot lists the ids that it displays. -/
structure TakesSameIds (Keeps : α → α → α → Prop) (before after : Section α)
    (snapshot : List α) : Prop where
  /-- The records are kept exactly if the ids come in the order in which they are displayed. -/
  kept : KeepsRecords Keeps before after snapshot ↔ keys snapshot = keys before.list.items
  /-- Else the snapshot replaces the section. -/
  replaced : keys snapshot ≠ keys before.list.items →
    after.list = ⟨snapshot.map Keyed.derived, before.list.generation + 1⟩

/-- The records of a list with distinct ids are told apart by their position. -/
theorem getElem?_of_key {items snapshot : List α} (hdistinct : (keys items).Nodup)
    (h : keys snapshot = keys items) {i : Nat} {older next : α} (holder : items[i]? = some older)
    (hnext : next ∈ snapshot) (hkey : Keyed.key next = Keyed.key older) :
    snapshot[i]? = some next := by
  obtain ⟨j, hj⟩ := List.mem_iff_getElem?.mp hnext
  have hkeys : (keys items)[i]? = (keys items)[j]? := by
    conv_rhs => rw [← h]
    unfold keys
    rw [List.getElem?_map, List.getElem?_map, holder, hj, Option.map_some, Option.map_some, hkey]
  have hi : i < (keys items).length := by
    unfold keys
    rw [List.length_map]
    exact (List.getElem?_eq_some_iff.mp holder).1
  rw [(List.getElem?_inj hi hdistinct).mp hkeys]
  exact hj

section lawful

variable [LawfulKeyed α] {policy : HiddenPolicy} {before : Section α} {snapshot : List α}

/-- In the order displayed, each record is patched from the one of its id. -/
theorem apply_same (h : keys snapshot = keys before.list.items) :
    (before.apply snapshot policy).1.list =
      ⟨(patchAll before.list.items (snapshot.map Keyed.derived)).1, before.list.generation⟩ := by
  by_cases hrecords : snapshot = []
  · subst hrecords
    have hitems : before.list.items = [] := List.map_eq_nil_iff.mp h.symm
    rw [apply_nil, hitems]
    exact congrArg (ReconciledList.mk · before.list.generation) hitems
  · have hkeys : keys before.list.items = keys (snapshot.map Keyed.derived) := by
      rw [keys_derived, h]
    rw [apply_records hrecords, reconcileKeyed_same hkeys]

/-- In any other order, the snapshot is adopted. -/
theorem apply_other (hrecords : snapshot ≠ []) (h : keys snapshot ≠ keys before.list.items) :
    (before.apply snapshot policy).1.list =
      ⟨snapshot.map Keyed.derived, before.list.generation + 1⟩ := by
  have hkeys : keys before.list.items ≠ keys (snapshot.map Keyed.derived) := by
    rw [keys_derived]
    exact h.symm
  rw [apply_records hrecords, reconcileKeyed_replaced hkeys]

variable {Keeps : α → α → α → Prop}
  (hkeeps : ∀ older next : α, Keeps older next (Keyed.patch older (Keyed.derived next)).1)
include hkeeps

theorem keepsRecords_same (hdistinct : (keys before.list.items).Nodup)
    (h : keys snapshot = keys before.list.items) :
    KeepsRecords Keeps before (before.apply snapshot policy).1 snapshot := by
  have hlist := @apply_same _ _ _ policy _ _ h
  have hkeys := keys_patchAll before.list.items (snapshot.map Keyed.derived)
  refine ⟨?_, ?_, ?_⟩
  · rw [hlist]
  · rw [hlist]
    exact hkeys
  · intro older holder next hnext hkey
    obtain ⟨i, hi⟩ := List.mem_iff_getElem?.mp holder
    have hlength := congrArg List.length hkeys
    simp only [keys, List.length_map] at hlength
    obtain ⟨shown, hshown⟩ : ∃ shown,
        (patchAll before.list.items (snapshot.map Keyed.derived)).1[i]? = some shown := by
      refine ⟨_, List.getElem?_eq_getElem ?_⟩
      rw [hlength]
      exact (List.getElem?_eq_some_iff.mp hi).1
    -- at the position of the older record the snapshot has the one of its id
    obtain ⟨record, incoming, hrecord, hincoming, rfl⟩ :=
      patchAll_getElem? ((keys_derived snapshot).trans h).symm hshown
    rw [List.getElem?_map, getElem?_of_key hdistinct h hi hnext hkey, Option.map_some] at hincoming
    obtain rfl : older = record := Option.some.inj (hi.symm.trans hrecord)
    obtain rfl := Option.some.inj hincoming
    refine ⟨_, ?_, LawfulKeyed.key_patch .., hkeeps older next⟩
    rw [hlist]
    exact List.mem_of_getElem? hshown

theorem takesSameIds (policy : HiddenPolicy) (before : Section α) (snapshot : List α)
    (hdistinct : (keys before.list.items).Nodup)
    (hsame : (keys snapshot).Perm (keys before.list.items)) :
    TakesSameIds Keeps before (before.apply snapshot policy).1 snapshot := by
  have hreplaced : keys snapshot ≠ keys before.list.items →
      (before.apply snapshot policy).1.list =
        ⟨snapshot.map Keyed.derived, before.list.generation + 1⟩ := by
    intro hother
    refine apply_other ?_ hother
    rintro rfl
    exact hother hsame.nil_eq
  refine ⟨⟨fun hkept => ?_, keepsRecords_same hkeeps hdistinct⟩, hreplaced⟩
  by_contra hother
  have hgeneration := hkept.generation
  rw [hreplaced hother] at hgeneration
  exact Nat.succ_ne_self _ hgeneration

end lawful

end Section

/-! ## The file system -/

namespace FilesystemStatus

/-- A snapshot with the ids displayed keeps the records of a section exactly if it lists them in the
order in which they are displayed; in any other order it replaces the section, and what it leaves
out is lost. This holds of the devices and of the replicas, in every view and under either
policy. -/
theorem records_kept_in_displayed_order (policy : HiddenPolicy) (view : View)
    (snapshot : FilesystemSnapshot) :
    ((keys view.devices.list.items).Nodup →
      (keys snapshot.devices).Perm (keys view.devices.list.items) →
        Section.TakesSameIds Device.Keeps view.devices
          ((monitor policy).apply view snapshot).view.devices snapshot.devices) ∧
    ((keys view.replicas.list.items).Nodup →
      (keys snapshot.replicas).Perm (keys view.replicas.list.items) →
        Section.TakesSameIds Replica.Keeps view.replicas
          ((monitor policy).apply view snapshot).view.replicas snapshot.replicas) :=
  ⟨Section.takesSameIds Device.keeps_patched policy view.devices snapshot.devices,
    Section.takesSameIds Replica.keeps_patched policy view.replicas snapshot.replicas⟩

/-- A healthy device of which only this much is known. -/
def device (id : String) (owner : Option String) : Device :=
  { id, owner, addresses := none, state := .healthy, totalSpace := none, freeSpace := none
    availSpace := none, priority := none, color := none, extra := .empty }

/-- A snapshot of devices. -/
def listing (devices : List Device) : FilesystemSnapshot := ⟨.empty, devices, []⟩

/-- Two devices are displayed, the first one with its owner. -/
def ownerShown : View :=
  (monitor .reshow).polled (monitor .reshow).initial
    [listing [device "a" (some "ops"), device "b" none]]

/-- Listed again in this order but without an owner, the first device keeps the one it had. -/
theorem owner_kept_in_displayed_order :
    (keys ownerShown.devices.list.items).Nodup ∧
      (keys [device "a" none, device "b" none]).Perm (keys ownerShown.devices.list.items) ∧
      Section.KeepsRecords Device.Keeps ownerShown.devices
        ((monitor .reshow).apply ownerShown
          (listing [device "a" none, device "b" none])).view.devices
        [device "a" none, device "b" none] := by
  have hdistinct : (keys ownerShown.devices.list.items).Nodup := by decide +kernel
  have hsame : (keys [device "a" none, device "b" none]).Perm
      (keys ownerShown.devices.list.items) := by decide +kernel
  obtain ⟨hdevices, _⟩ := records_kept_in_displayed_order .reshow ownerShown
    (listing [device "a" none, device "b" none])
  exact ⟨hdistinct, hsame, (hdevices hdistinct hsame).kept.mpr (by decide +kernel)⟩

/-- Listed the other way round, it loses the owner and the generation moves, with the ids that were
displayed. -/
theorem owner_lost_in_other_order :
    (keys ownerShown.devices.list.items).Nodup ∧
      (keys [device "b" none, device "a" none]).Perm (keys ownerShown.devices.list.items) ∧
      ownerShown.devices.list.generation = 1 ∧
      ((monitor .reshow).apply ownerShown
        (listing [device "b" none, device "a" none])).view.devices.list.generation = 2 ∧
      ownerShown.devices.list.items.map Device.owner = [some "ops", none] ∧
      ((monitor .reshow).apply ownerShown
        (listing [device "b" none, device "a" none])).view.devices.list.items.map Device.owner =
          [none, none] ∧
      ¬ Section.KeepsRecords Device.Keeps ownerShown.devices
        ((monitor .reshow).apply ownerShown
          (listing [device "b" none, device "a" none])).view.devices
        [device "b" none, device "a" none] := by
  have hbefore : ownerShown.devices.list.generation = 1 := by decide +kernel
  have hafter : ((monitor .reshow).apply ownerShown
      (listing [device "b" none, device "a" none])).view.devices.list.generation = 2 := by
    decide +kernel
  refine ⟨by decide +kernel, by decide +kernel, hbefore, hafter, by decide +kernel,
    by decide +kernel, fun hkept => ?_⟩
  have hgeneration := hkept.generation
  rw [hbefore, hafter] at hgeneration
  exact nomatch hgeneration

end FilesystemStatus

end NfsWatch
