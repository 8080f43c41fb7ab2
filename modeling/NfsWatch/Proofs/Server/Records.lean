import NfsWatch.Proofs.Reconcile.Patch
import NfsWatch.Proofs.Server.ReadBack

/-!
# Devices and replicas on the wire and back

A record of the file system is written with all its fields, and beside them with the entries that
it does not model. The colour is written and never read: it comes back as one of those entries, and
deriving the fields takes it away again. Two things make the rest come back as it was. No entry is
kept under the name of a field that is read (`Beside`), so none is written over one; and the state
is read for its own name. Decoded records have both, and deriving and patching keep them.
-/

namespace NfsWatch

open Patch

/-! ## Entries beside fields -/

/-- None of the entries has the name of a field that is read. -/
def Beside (fields : List String) (extra : Table Json) : Prop :=
  ∀ key ∈ fields, extra.find? key = none

namespace Beside

variable {fields : List String} {extra : Table Json}

theorem unmodelled (fields : List String) (entries : List (String × Json)) :
    Beside fields (Decode.unmodelled fields entries) := by
  intro key hfield
  refine Entries.find?_ofList_eq_none ?_
  intro entry hmem heq
  have hleft := (List.mem_filter.mp hmem).2
  exact of_decide_eq_true hleft (heq ▸ hfield)

theorem erase (h : Beside fields extra) (key : String) : Beside fields (extra.erase key) := by
  intro other hfield
  rw [Table.find?_erase, h other hfield, ite_self]

theorem assignExtra {incoming : Table Json} (h : Beside fields extra)
    (hincoming : Beside fields incoming) : Beside fields (assignExtra extra incoming).1 := by
  intro key hfield
  rw [assignExtra_find?, h key hfield, hincoming key hfield]
  rfl

end Beside

/-- What a record needs so that all of it but the derived colour reads back. -/
structure Faithful (fields : List String) (state : HealthState) (extra : Table Json) : Prop where
  state : state.Canonical
  beside : Beside fields extra

namespace Faithful

variable {fields : List String} {state next : HealthState} {extra incoming : Table Json}

theorem derived (h : Faithful fields state extra) : Faithful fields state (extra.erase "color") :=
  ⟨h.state, h.beside.erase "color"⟩

theorem patched (h : Faithful fields state extra) (hincoming : Faithful fields next incoming) :
    Faithful fields (assign state next).1 (assignExtra extra incoming).1 := by
  refine ⟨?_, h.beside.assignExtra hincoming.beside⟩
  rw [assign_fst]
  exact hincoming.state

end Faithful

/-! ## Objects with fields and other entries -/

/-- The entries of the object that has these fields, and these entries beside them. -/
def written (fieldEntries : List (String × Json)) (extra : Table Json) : List (String × Json) :=
  Entries.ofList (fieldEntries ++ extra.entries)

/-- In the object form each of these fields has its own value. -/
def KeepsFields (fieldEntries : List (String × Json)) (encoded : Json) : Prop :=
  ∃ entries, encoded = .obj entries ∧
    ∀ field ∈ fieldEntries, Entries.find? field.1 entries = some field.2

/-- The fields in which a record is written are in order, and all but the colour are read. -/
structure Layout (fields : List String) (fieldEntries : List (String × Json)) : Prop where
  sorted : Entries.Sorted fieldEntries
  names : ∀ field ∈ fieldEntries, field.1 ∈ fields ∨ field.1 = "color"

namespace Layout

variable {fields : List String} {fieldEntries : List (String × Json)} {extra : Table Json}

theorem of_keys {keys : List String} (hkeys : fieldEntries.map Prod.fst = keys)
    (hsorted : keys.Pairwise (· < ·)) (hnames : ∀ key ∈ keys, key ∈ fields ∨ key = "color") :
    Layout fields fieldEntries := by
  subst hkeys
  exact ⟨List.pairwise_map.mp hsorted, fun field hmem => hnames _ (List.mem_map_of_mem hmem)⟩

variable (h : Layout fields fieldEntries)
include h

theorem find?_written (extra : Table Json) (key : String) :
    Entries.find? key (written fieldEntries extra) =
      (extra.find? key).or (Entries.find? key fieldEntries) := by
  unfold written
  rw [Entries.find?_ofList_append _ extra.sorted, Entries.find?_ofList h.sorted]
  rfl

/-- A field keeps its value unless there is an entry under its name. -/
theorem keepsFields {kept : List (String × Json)}
    (hkept : ∀ field ∈ kept, field ∈ fieldEntries ∧ extra.find? field.1 = none) :
    KeepsFields kept (.obj (written fieldEntries extra)) := by
  refine ⟨_, rfl, ?_⟩
  rintro ⟨key, value⟩ hmem
  obtain ⟨hfield, hnone⟩ := hkept _ hmem
  rw [h.find?_written, hnone, Option.none_or]
  exact h.sorted.find?_eq_some_iff.mpr hfield

variable (hbeside : Beside fields extra)
include hbeside

/-- Nothing is written over a field that is read. -/
theorem find?_field : ∀ key ∈ fields,
    Entries.find? key (written fieldEntries extra) = Entries.find? key fieldEntries := by
  intro key hfield
  rw [h.find?_written, hbeside key hfield, Option.none_or]

theorem keeps_read : KeepsFields (fieldEntries.filter fun field => field.1 ≠ "color")
    (.obj (written fieldEntries extra)) := by
  refine h.keepsFields fun field hmem => ?_
  obtain ⟨hfield, hcolor⟩ := List.mem_filter.mp hmem
  exact ⟨hfield, hbeside _ ((h.names field hfield).resolve_right (of_decide_eq_true hcolor))⟩

theorem keeps_all (hcolor : extra.find? "color" = none) :
    KeepsFields fieldEntries (.obj (written fieldEntries extra)) := by
  refine h.keepsFields fun field hfield => ⟨hfield, ?_⟩
  rcases h.names field hfield with hread | heq
  · exact hbeside field.1 hread
  · rw [heq]
    exact hcolor

/-- What is left over when the object is read are the entries beside the fields, but for the
colour. -/
theorem unmodelled_written : (Decode.unmodelled fields (written fieldEntries extra)).erase "color" =
    extra.erase "color" := by
  refine Table.ext_find? fun key => ?_
  have hwritten : Entries.Sorted (written fieldEntries extra) := Entries.sorted_ofList _
  rw [Table.find?_erase, Table.find?_erase, Decode.find?_unmodelled fields hwritten]
  by_cases hcolor : key = "color"
  · rw [if_pos hcolor, if_pos hcolor]
  · rw [if_neg hcolor, if_neg hcolor]
    by_cases hfield : key ∈ fields
    · rw [if_pos hfield, hbeside key hfield]
    · have hother : Entries.find? key fieldEntries = none := by
        refine Entries.find?_eq_none_of_forall_ne ?_
        rintro entry hmem rfl
        exact (h.names entry hmem).elim hfield hcolor
      rw [if_neg hfield, h.find?_written, hother, Option.or_none]

end Layout

/-! ## Devices -/

namespace Device

/-- A device is read from an object, and has the entries that its fields leave over. -/
theorem of_decode {value : Json} {device : Device} (h : decode value = .ok device) :
    ∃ entries, value = .obj entries ∧ device.state.Canonical ∧
      device.extra = Decode.unmodelled fields entries := by
  cases value with
  | obj entries =>
      unfold decode at h
      iterate 6 obtain ⟨_, _, h⟩ := Decode.bind_eq_ok h
      obtain ⟨state, hstate, h⟩ := Decode.bind_eq_ok h
      iterate 2 obtain ⟨_, _, h⟩ := Decode.bind_eq_ok h
      cases h
      exact ⟨entries, rfl, HealthState.canonical_of_optional hstate, rfl⟩
  | _ => exact nomatch h

theorem faithful_of_decode {value : Json} {device : Device} (h : decode value = .ok device) :
    Faithful fields device.state device.extra := by
  obtain ⟨entries, _, hstate, hextra⟩ := of_decode h
  refine ⟨hstate, ?_⟩
  rw [hextra]
  exact Beside.unmodelled fields entries

theorem layout (device : Device) : Layout fields device.fieldEntries := by
  have hkeys : device.fieldEntries.map Prod.fst = ["addresses", "availSpace", "color", "freeSpace",
      "id", "owner", "priority", "state", "totalSpace"] := rfl
  exact .of_keys hkeys (by decide +kernel) (by decide +kernel)

variable {device : Device} (h : Faithful fields device.state device.extra)
include h

theorem decode_encode :
    decode device.encode = .ok { device with
      color := none
      extra := Decode.unmodelled fields (written device.fieldEntries device.extra) } := by
  have hread := device.layout.find?_field h.beside
  have howner : Decode.orDefault none (Decode.nullable Decode.text)
      (some (Json.option Json.str device.owner)) = .ok device.owner :=
    @Decode.nullable_option _ Decode.text Json.str (fun _ => rfl) (fun _ => nofun) device.owner
  have hpriority : Decode.orDefault none (Decode.nullable Decode.float)
      (some (Json.option Json.float device.priority)) = .ok device.priority :=
    @Decode.nullable_option _ Decode.float Json.float (fun _ => rfl) (fun _ => nofun)
      device.priority
  have hstate : Decode.orDefault .unknown HealthState.decode (some device.state.encode) =
      .ok device.state := HealthState.decode_encode h.state
  show decode (.obj (written device.fieldEntries device.extra)) = _
  generalize written device.fieldEntries device.extra = entries at hread ⊢
  -- one equation for each field that is read
  simp only [fields, List.forall_mem_cons, fieldEntries, Entries.find?_cons_self,
    Entries.find?_cons_ne, ne_eq, String.reduceEq, not_false_eq_true] at hread
  unfold decode
  simp only [hread, Decode.optionalChannels_encoded, Decode.optionalWord_encoded, howner,
    hpriority, hstate]
  rfl

/-- A device reads back but for its derived field. -/
theorem reread : ∃ again, decode device.encode = .ok again ∧ again.derived = device.derived := by
  refine ⟨_, decode_encode h, ?_⟩
  unfold derived
  rw [device.layout.unmodelled_written h.beside]

end Device

/-! ## Replicas -/

namespace Replica

/-- A replica is read from an object, and has the entries that its fields leave over. -/
theorem of_decode {value : Json} {replica : Replica} (h : decode value = .ok replica) :
    ∃ entries, value = .obj entries ∧ replica.state.Canonical ∧
      replica.extra = Decode.unmodelled fields entries := by
  cases value with
  | obj entries =>
      unfold decode at h
      iterate 2 obtain ⟨_, _, h⟩ := Decode.bind_eq_ok h
      obtain ⟨state, hstate, h⟩ := Decode.bind_eq_ok h
      obtain ⟨_, _, h⟩ := Decode.bind_eq_ok h
      cases h
      exact ⟨entries, rfl, HealthState.canonical_of_optional hstate, rfl⟩
  | _ => exact nomatch h

theorem faithful_of_decode {value : Json} {replica : Replica} (h : decode value = .ok replica) :
    Faithful fields replica.state replica.extra := by
  obtain ⟨entries, _, hstate, hextra⟩ := of_decode h
  refine ⟨hstate, ?_⟩
  rw [hextra]
  exact Beside.unmodelled fields entries

theorem layout (replica : Replica) : Layout fields replica.fieldEntries := by
  have hkeys : replica.fieldEntries.map Prod.fst = ["addresses", "color", "id", "state"] := rfl
  exact .of_keys hkeys (by decide +kernel) (by decide +kernel)

variable {replica : Replica} (h : Faithful fields replica.state replica.extra)
include h

theorem decode_encode :
    decode replica.encode = .ok { replica with
      color := none
      extra := Decode.unmodelled fields (written replica.fieldEntries replica.extra) } := by
  have hread := replica.layout.find?_field h.beside
  have hstate : Decode.orDefault .unknown HealthState.decode (some replica.state.encode) =
      .ok replica.state := HealthState.decode_encode h.state
  show decode (.obj (written replica.fieldEntries replica.extra)) = _
  generalize written replica.fieldEntries replica.extra = entries at hread ⊢
  simp only [fields, List.forall_mem_cons, fieldEntries, Entries.find?_cons_self,
    Entries.find?_cons_ne, ne_eq, String.reduceEq, not_false_eq_true] at hread
  unfold decode
  simp only [hread, Decode.optionalChannels_encoded, hstate]
  rfl

/-- A replica reads back but for its derived field. -/
theorem reread : ∃ again, decode replica.encode = .ok again ∧ again.derived = replica.derived := by
  refine ⟨_, decode_encode h, ?_⟩
  unfold derived
  rw [replica.layout.unmodelled_written h.beside]

end Replica

/-! ## Snapshots -/

namespace FilesystemSnapshot

theorem faithful_of_decode {value : Json} {snapshot : FilesystemSnapshot}
    (h : decode value = .ok snapshot) :
    (∀ device ∈ snapshot.devices, Faithful Device.fields device.state device.extra) ∧
      ∀ replica ∈ snapshot.replicas, Faithful Replica.fields replica.state replica.extra := by
  rcases Decode.record_cases h with ⟨entries, h⟩ | ⟨items, h⟩
  · obtain ⟨devices, hdevices, h⟩ := Decode.bind_eq_ok h
    obtain ⟨replicas, hreplicas, h⟩ := Decode.bind_eq_ok h
    obtain ⟨stats, _, h⟩ := Decode.bind_eq_ok h
    cases h
    exact ⟨Decode.forall_of_list Device.faithful_of_decode hdevices,
      Decode.forall_of_list Replica.faithful_of_decode hreplicas⟩
  · obtain ⟨stats, _, h⟩ := Decode.bind_eq_ok h
    obtain ⟨devices, hdevices, h⟩ := Decode.bind_eq_ok h
    obtain ⟨replicas, hreplicas, h⟩ := Decode.bind_eq_ok h
    cases h
    exact ⟨Decode.forall_of_list Device.faithful_of_decode hdevices,
      Decode.forall_of_list Replica.faithful_of_decode hreplicas⟩

/-- A snapshot reads back but for the derived fields of its records. -/
theorem reread {value : Json} {snapshot : FilesystemSnapshot} (h : decode value = .ok snapshot) :
    ∃ again, decode snapshot.encode = .ok again ∧ again.stats = snapshot.stats ∧
      again.devices.map Device.derived = snapshot.devices.map Device.derived ∧
      again.replicas.map Replica.derived = snapshot.replicas.map Replica.derived := by
  obtain ⟨hdevice, hreplica⟩ := faithful_of_decode h
  obtain ⟨devices, hdevices, hsameDevices⟩ :=
    Decode.list_map_view fun device hmem => Device.reread (hdevice device hmem)
  obtain ⟨replicas, hreplicas, hsameReplicas⟩ :=
    Decode.list_map_view fun replica hmem => Replica.reread (hreplica replica hmem)
  refine ⟨⟨snapshot.stats, devices, replicas⟩, ?_, rfl, hsameDevices, hsameReplicas⟩
  unfold decode encode Decode.record
  simp only [Entries.find?_cons_self, Entries.find?_cons_ne, ne_eq, String.reduceEq,
    not_false_eq_true, Decode.orDefault, hdevices, hreplicas, FsStats.decode_encode]
  rfl

end FilesystemSnapshot

end NfsWatch
