import NfsWatch.Monitor.FilesystemStatus
import NfsWatch.Proofs.Reconcile.CarriedForward

/-!
# Reconciling with what was read back

Reconciling looks at the records of a snapshot only after their fields were derived, so it cannot
tell a snapshot from what its encoding decodes to. And a list that is displayed already holds what
its own encoding decodes to, so there is nothing to patch in.
-/

namespace NfsWatch

open Patch ReconciledList KeyedHistory

/-! ## Nothing to patch in -/

namespace Patch

variable {α : Type} {same : α → α → Bool}

theorem assignPresentBy_self (hrefl : ∀ value, same value value = true) (slot : Option α) :
    assignPresentBy same slot slot = (slot, false) := by
  cases slot with
  | none => rfl
  | some value => exact if_pos (hrefl value)

theorem assignExtra_self (extra : Table Json) : (assignExtra extra extra).1 = extra := by
  refine Table.ext_find? fun key => ?_
  rw [assignExtra_find?, assignPresentBy_self Json.same_refl]

end Patch

theorem Device.patch_self (device : Device) : (device.patch device).1 = device := by
  simp only [Device.patch, assign_fst, assignPresent_fst, Option.or_self,
    assignPresentBy_self Binary64.same_refl, assignExtra_self]

theorem Replica.patch_self (replica : Replica) : (replica.patch replica).1 = replica := by
  simp only [Replica.patch, assign_fst, assignPresent_fst, Option.or_self, assignExtra_self]

namespace ReconciledList

variable {α : Type} [Keyed α]

/-- Of a snapshot only the derived records count. -/
theorem reconcileKeyed_derived {first second : List α}
    (h : first.map Keyed.derived = second.map Keyed.derived) (list : ReconciledList α) :
    list.reconcileKeyed first = list.reconcileKeyed second := by
  unfold reconcileKeyed
  rw [h]

variable (hself : ∀ record : α, (Keyed.patch record record).1 = record)
include hself

theorem patchAll_self (records : List α) : (patchAll records records).1 = records := by
  induction records with
  | nil => rfl
  | cons record rest ih =>
      show (Keyed.patch record record).1 :: (patchAll rest rest).1 = _
      rw [hself, ih]

/-- A snapshot of what is displayed changes nothing. -/
theorem reconcileKeyed_self [LawfulKeyed α] {list : ReconciledList α} {snapshot : List α}
    (h : snapshot.map Keyed.derived = list.items) :
    list.reconcileKeyed snapshot = (list, .unchanged) := by
  have hquiet : (patchAll list.items list.items).2 = false := by
    rw [← Bool.not_eq_true, patchAll_written, Ne, not_not]
    exact patchAll_self hself list.items
  have hkeys : keys list.items = keys (snapshot.map Keyed.derived) := by rw [h]
  rw [reconcileKeyed_same hkeys, h, patchAll_self hself, hquiet]
  rfl

end ReconciledList

theorem Section.apply_derived {α : Type} [Keyed α] {first second : List α}
    (h : first.map Keyed.derived = second.map Keyed.derived) (current : Section α)
    (policy : HiddenPolicy) : current.apply first policy = current.apply second policy := by
  have hempty : first.isEmpty = second.isEmpty := by
    rw [← List.isEmpty_map, h, List.isEmpty_map]
  unfold Section.apply
  rw [hempty, reconcileKeyed_derived h]

/-! ## Records that are displayed -/

theorem Table.erase_of_find?_eq_none {β : Type} {table : Table β} {key : String}
    (h : table.find? key = none) : table.erase key = table := by
  refine Table.ext_find? fun other => ?_
  rw [Table.find?_erase]
  split
  · rename_i heq
    rw [heq, h]
  · rfl

theorem Device.derived_eq_self {device : Device} (hcolor : device.color = some device.state.color)
    (hextra : device.extra.find? "color" = none) : device.derived = device := by
  unfold derived
  rw [Table.erase_of_find?_eq_none hextra, ← hcolor]

theorem Replica.derived_eq_self {replica : Replica}
    (hcolor : replica.color = some replica.state.color)
    (hextra : replica.extra.find? "color" = none) : replica.derived = replica := by
  unfold derived
  rw [Table.erase_of_find?_eq_none hextra, ← hcolor]

theorem Device.carries_faithful : Carries (Wired.record : Wired Device.decode → Device)
    fun _ _ shown => Faithful fields shown.state shown.extra where
  first := fun last => (faithful_of_decode last.decoded).derived
  next := fun last h => h.patched (faithful_of_decode last.decoded).derived

theorem Replica.carries_faithful : Carries (Wired.record : Wired Replica.decode → Replica)
    fun _ _ shown => Faithful fields shown.state shown.extra where
  first := fun last => (faithful_of_decode last.decoded).derived
  next := fun last h => h.patched (faithful_of_decode last.decoded).derived

/-! ## What reads back -/

section

variable {α : Type} [Keyed α]

/-- How a record that decodes is written and reads back. -/
structure RecordReadsBack (decode : Json → Decoded α) (encode : α → Json) (fields : List String)
    (fieldEntries : α → List (String × Json)) (extra : α → Table Json) (value : Json)
    (record : α) : Prop where
  /-- Beside its fields it has the entries of the object under all other keys. -/
  unmodelled : value.WellFormed → ∃ entries, value = .obj entries ∧
    ∀ key, (extra record).find? key = if key ∈ fields then none else Entries.find? key entries
  /-- None of them is written over a field, unless it is a colour. -/
  kept : KeepsFields ((fieldEntries record).filter fun field => field.1 ≠ "color") (encode record)
  /-- It reads back as it was, once the fields of both are derived. -/
  again : ∃ again, decode (encode record) = .ok again ∧
    Keyed.derived again = Keyed.derived record

/-- How a list that is displayed is written and reads back. -/
structure ListReadsBack (decode : Json → Decoded α) (encode : α → Json)
    (fieldEntries : α → List (String × Json)) (list : ReconciledList α) : Prop where
  /-- Each record is written with all its fields, the colour included, and reads back as it is. -/
  each : ∀ shown ∈ list.items, KeepsFields (fieldEntries shown) (encode shown) ∧
    ∃ again, decode (encode shown) = .ok again ∧ Keyed.derived again = shown
  /-- The list reads back as it is, and reconciling with that changes nothing. -/
  again : ∃ snapshot, Decode.list decode (.arr (list.items.map encode)) = .ok snapshot ∧
    snapshot.map Keyed.derived = list.items ∧ list.reconcileKeyed snapshot = (list, .unchanged)

theorem ListReadsBack.of_each [LawfulKeyed α] {decode : Json → Decoded α} {encode : α → Json}
    {fieldEntries : α → List (String × Json)} {list : ReconciledList α}
    (hself : ∀ record : α, (Keyed.patch record record).1 = record)
    (h : ∀ shown ∈ list.items, KeepsFields (fieldEntries shown) (encode shown) ∧
      ∃ again, decode (encode shown) = .ok again ∧ Keyed.derived again = shown) :
    ListReadsBack decode encode fieldEntries list := by
  obtain ⟨snapshot, hsnapshot, hderived⟩ :=
    @Decode.list_map_view _ _ decode encode Keyed.derived id list.items
      fun shown hmem => (h shown hmem).2
  rw [List.map_id] at hderived
  exact ⟨h, snapshot, hsnapshot, hderived, reconcileKeyed_self hself hderived⟩

end

theorem Device.readsBack {value : Json} {device : Device} (h : decode value = .ok device) :
    RecordReadsBack decode encode fields fieldEntries extra value device where
  unmodelled := by
    intro hwell
    obtain ⟨entries, rfl, _, hextra⟩ := of_decode h
    refine ⟨entries, rfl, fun key => ?_⟩
    rw [hextra]
    exact Decode.find?_unmodelled fields hwell.1 key
  kept := device.layout.keeps_read (faithful_of_decode h).beside
  again := reread (faithful_of_decode h)

theorem Replica.readsBack {value : Json} {replica : Replica} (h : decode value = .ok replica) :
    RecordReadsBack decode encode fields fieldEntries extra value replica where
  unmodelled := by
    intro hwell
    obtain ⟨entries, rfl, _, hextra⟩ := of_decode h
    refine ⟨entries, rfl, fun key => ?_⟩
    rw [hextra]
    exact Decode.find?_unmodelled fields hwell.1 key
  kept := replica.layout.keeps_read (faithful_of_decode h).beside
  again := reread (faithful_of_decode h)

theorem Device.list_readsBack (snapshots : List (List (Wired Device.decode))) :
    ListReadsBack decode encode fieldEntries (displayed Wired.record snapshots) := by
  refine .of_each patch_self fun shown hmem => ?_
  obtain ⟨i, hshown⟩ := List.mem_iff_getElem?.mp hmem
  obtain ⟨_, _, hfaithful⟩ := carried_displayed Device.carries_faithful snapshots hshown
  obtain ⟨_, _, hcarried⟩ := carried_displayed Device.carries snapshots hshown
  obtain ⟨again, hagain, hsame⟩ := reread hfaithful
  refine ⟨shown.layout.keeps_all hfaithful.beside hcarried.extra.noColor, again, hagain, ?_⟩
  exact hsame.trans (derived_eq_self hcarried.color hcarried.extra.noColor)

theorem Replica.list_readsBack (snapshots : List (List (Wired Replica.decode))) :
    ListReadsBack decode encode fieldEntries (displayed Wired.record snapshots) := by
  refine .of_each patch_self fun shown hmem => ?_
  obtain ⟨i, hshown⟩ := List.mem_iff_getElem?.mp hmem
  obtain ⟨_, _, hfaithful⟩ := carried_displayed Replica.carries_faithful snapshots hshown
  obtain ⟨_, _, hcarried⟩ := carried_displayed Replica.carries snapshots hshown
  obtain ⟨again, hagain, hsame⟩ := reread hfaithful
  refine ⟨shown.layout.keeps_all hfaithful.beside hcarried.extra.noColor, again, hagain, ?_⟩
  exact hsame.trans (derived_eq_self hcarried.color hcarried.extra.noColor)

/-- Applying what a snapshot reads back as does what applying the snapshot does. -/
theorem FilesystemSnapshot.apply_reread {value : Json} {snapshot : FilesystemSnapshot}
    (h : decode value = .ok snapshot) :
    ∃ again, decode snapshot.encode = .ok again ∧ ∀ policy view,
      FilesystemStatus.apply policy view again = FilesystemStatus.apply policy view snapshot := by
  obtain ⟨again, hagain, hstats, hdevices, hreplicas⟩ := reread h
  refine ⟨again, hagain, fun policy view => ?_⟩
  unfold FilesystemStatus.apply
  rw [hstats, Section.apply_derived hdevices, Section.apply_derived hreplicas]

/-- Nothing is lost or gained between encoding and decoding, but for the derived colour, which is
written and comes back beside the fields; and reconciling does not see that. -/
theorem encodings_read_back :
    (ReadsBack ClientDetail.decode ClientDetail.encode ∧
      ReadsBack SessionDetail.decode SessionDetail.encode ∧
      ReadsBack Channel.decode Channel.encode ∧
      ReadsBack StateDetail.decode StateDetail.encode ∧
      ReadsBack FsStats.decode FsStats.encode ∧
      ReadsBack OperationCounters.decode OperationCounters.encode ∧
      ReadsBack OperationCount.decode OperationCount.encode ∧
      ReadsBack HealthState.decode HealthState.encode ∧
      ReadsBack AccessMask.decode AccessMask.encode) ∧
    (∀ value device, Device.decode value = .ok device → RecordReadsBack Device.decode
      Device.encode Device.fields Device.fieldEntries Device.extra value device) ∧
    (∀ value replica, Replica.decode value = .ok replica → RecordReadsBack Replica.decode
      Replica.encode Replica.fields Replica.fieldEntries Replica.extra value replica) ∧
    (∀ value snapshot, FilesystemSnapshot.decode value = .ok snapshot →
      ∃ again, FilesystemSnapshot.decode snapshot.encode = .ok again ∧ ∀ policy view,
        FilesystemStatus.apply policy view again =
          FilesystemStatus.apply policy view snapshot) ∧
    (∀ snapshots : List (List (Wired Device.decode)), ListReadsBack Device.decode Device.encode
      Device.fieldEntries (displayed Wired.record snapshots)) ∧
    ∀ snapshots : List (List (Wired Replica.decode)), ListReadsBack Replica.decode Replica.encode
      Replica.fieldEntries (displayed Wired.record snapshots) := by
  refine ⟨⟨?_, ?_, ?_, ?_, ?_, ?_, ?_, ?_, ?_⟩, ?_, ?_, ?_, ?_, ?_⟩
  · exact fun _ client _ => client.decode_encode
  · exact fun _ session _ => session.decode_encode
  · exact fun _ channel _ => channel.decode_encode
  · exact fun _ state _ => state.decode_encode
  · exact fun _ stats _ => stats.decode_encode
  · exact fun _ counters _ => counters.decode_encode
  · exact fun _ row _ => row.decode_encode
  · exact fun _ state h => HealthState.decode_encode (HealthState.canonical_of_decode h)
  · exact fun _ mask _ => mask.decode_encode
  · exact fun _ _ h => Device.readsBack h
  · exact fun _ _ h => Replica.readsBack h
  · exact fun _ _ h => FilesystemSnapshot.apply_reread h
  · exact Device.list_readsBack
  · exact Replica.list_readsBack

/-- A device with a number for its id, a colour of its own and an entry that is not modelled. -/
def paintedDevice : Wired Device.decode where
  wire := [("color", .str "blue"), ("id", .int 7), ("rack", .str "r1"), ("state", .str "dead")]
  record := {
    id := "7", owner := none, addresses := none, state := .dead, totalSpace := none
    freeSpace := none, availSpace := none, priority := none, color := none
    extra := ⟨[("color", .str "blue"), ("rack", .str "r1")], by decide +kernel⟩ }
  sorted := by decide +kernel
  decoded := rfl

/-- Its own colour is kept beside the fields and written over the one that is missing; once it is
displayed there is only the derived colour, and the list of it reads back as it is. -/
theorem painted_device_reads_back :
    (∃ entries, paintedDevice.record.encode = .obj entries ∧
        Entries.find? "color" entries = some (.str "blue")) ∧
      RecordReadsBack Device.decode Device.encode Device.fields Device.fieldEntries Device.extra
        (.obj paintedDevice.wire) paintedDevice.record ∧
      ((displayed Wired.record [[paintedDevice]]).items.map fun shown =>
        (shown.color, shown.extra.keys)) = [(some .red, ["rack"])] ∧
      ListReadsBack Device.decode Device.encode Device.fieldEntries
        (displayed Wired.record [[paintedDevice]]) := by
  obtain ⟨_, hdevice, _, _, hlists, _⟩ := encodings_read_back
  exact ⟨⟨_, rfl, rfl⟩, hdevice _ _ paintedDevice.decoded, by decide +kernel,
    hlists [[paintedDevice]]⟩

end NfsWatch
