import NfsWatch.Server.Channel
import NfsWatch.Server.Health

/-!
# Filesystem — capacity, devices and replicas

Devices and replicas may carry entries that are not modelled; they are kept beside the fields as
`extra`. The colour is derived, never read: an entry `color` on the wire is one of the `extra`
entries. In the object form the `extra` entries stand beside the fields and win over a field of
the same name, which only `color` can have.
-/

namespace NfsWatch

/-- Capacity of the file system; any figure may be missing. -/
structure FsStats where
  totalSpace : Option UInt64
  freeSpace : Option UInt64
  availSpace : Option UInt64
  totalFiles : Option UInt64
  freeFiles : Option UInt64
  availFiles : Option UInt64
  repairQueueSize : Option UInt64
deriving DecidableEq, Inhabited

def Decode.optionalWord : Option Json → Decoded (Option UInt64) :=
  Decode.orDefault none (Decode.nullable Decode.word64)

def Json.optionalWord : Option UInt64 → Json := Json.option (fun n => .nat n.toNat)

namespace FsStats

def empty : FsStats := ⟨none, none, none, none, none, none, none⟩

/-- Capacity from an object or from the array of its figures. -/
def decode : Json → Decoded FsStats :=
  Decode.record "FsStats" 7
    (fun entries => do
      let availFiles ← Decode.optionalWord (Entries.find? "availFiles" entries)
      let availSpace ← Decode.optionalWord (Entries.find? "availSpace" entries)
      let freeFiles ← Decode.optionalWord (Entries.find? "freeFiles" entries)
      let freeSpace ← Decode.optionalWord (Entries.find? "freeSpace" entries)
      let repairQueueSize ← Decode.optionalWord (Entries.find? "repairQueueSize" entries)
      let totalFiles ← Decode.optionalWord (Entries.find? "totalFiles" entries)
      let totalSpace ← Decode.optionalWord (Entries.find? "totalSpace" entries)
      return { totalSpace, freeSpace, availSpace, totalFiles, freeFiles, availFiles,
               repairQueueSize })
    (fun items => do
      let totalSpace ← Decode.optionalWord items[0]?
      let freeSpace ← Decode.optionalWord items[1]?
      let availSpace ← Decode.optionalWord items[2]?
      let totalFiles ← Decode.optionalWord items[3]?
      let freeFiles ← Decode.optionalWord items[4]?
      let availFiles ← Decode.optionalWord items[5]?
      let repairQueueSize ← Decode.optionalWord items[6]?
      return { totalSpace, freeSpace, availSpace, totalFiles, freeFiles, availFiles,
               repairQueueSize })

def encode (stats : FsStats) : Json :=
  .obj [("availFiles", .optionalWord stats.availFiles),
    ("availSpace", .optionalWord stats.availSpace),
    ("freeFiles", .optionalWord stats.freeFiles), ("freeSpace", .optionalWord stats.freeSpace),
    ("repairQueueSize", .optionalWord stats.repairQueueSize),
    ("totalFiles", .optionalWord stats.totalFiles),
    ("totalSpace", .optionalWord stats.totalSpace)]

end FsStats

/-! ## Devices -/

structure Device where
  /-- The id, as text even where the server sends a number. -/
  id : String
  owner : Option String
  addresses : Option (List Channel)
  state : HealthState
  totalSpace : Option UInt64
  freeSpace : Option UInt64
  availSpace : Option UInt64
  priority : Option Binary64
  /-- Derived from the state; missing until it is. -/
  color : Option StateColor
  /-- The entries that are not modelled. -/
  extra : Table Json
deriving Inhabited

def Decode.requiredId : Option String → Decoded String
  | some id => .ok id
  | none => .error (.missingField "id")

/-- The entries of a record that its fields leave over. -/
def Decode.unmodelled (fields : List String) (entries : List (String × Json)) : Table Json :=
  Table.ofList (entries.filter (fun entry => entry.1 ∉ fields))

def Decode.presentId : Option Json → Decoded (Option String) :=
  Decode.orDefault none (fun v => (Decode.textual .notId v).map some)

def Decode.optionalChannels : Option Json → Decoded (Option (List Channel)) :=
  Decode.orDefault none (Decode.nullable (Decode.list Channel.decode))

def Json.optionalChannels : Option (List Channel) → Json :=
  Json.option (fun channels => .arr (channels.map Channel.encode))

namespace Device

def fields : List String :=
  ["addresses", "availSpace", "freeSpace", "id", "owner", "priority", "state", "totalSpace"]

def decode : Json → Decoded Device
  | .obj entries => do
      let addresses ← Decode.optionalChannels (Entries.find? "addresses" entries)
      let availSpace ← Decode.optionalWord (Entries.find? "availSpace" entries)
      let freeSpace ← Decode.optionalWord (Entries.find? "freeSpace" entries)
      let id ← Decode.presentId (Entries.find? "id" entries)
      let owner ← Decode.orDefault none (Decode.nullable Decode.text)
        (Entries.find? "owner" entries)
      let priority ← Decode.orDefault none (Decode.nullable Decode.float)
        (Entries.find? "priority" entries)
      let state ← Decode.orDefault .unknown HealthState.decode (Entries.find? "state" entries)
      let totalSpace ← Decode.optionalWord (Entries.find? "totalSpace" entries)
      let id ← Decode.requiredId id
      return { id, owner, addresses, state, totalSpace, freeSpace, availSpace, priority,
               color := none, extra := Decode.unmodelled fields entries }
  | v => .error (.wrongType v (.record "Device"))

def fieldEntries (device : Device) : List (String × Json) :=
  [("addresses", .optionalChannels device.addresses),
    ("availSpace", .optionalWord device.availSpace),
    ("color", .option StateColor.encode device.color),
    ("freeSpace", .optionalWord device.freeSpace), ("id", .str device.id),
    ("owner", .option Json.str device.owner), ("priority", .option Json.float device.priority),
    ("state", device.state.encode), ("totalSpace", .optionalWord device.totalSpace)]

def encode (device : Device) : Json :=
  .object (device.fieldEntries ++ device.extra.entries)

end Device

/-! ## Replicas -/

structure Replica where
  id : String
  addresses : Option (List Channel)
  state : HealthState
  color : Option StateColor
  extra : Table Json
deriving Inhabited

namespace Replica

def fields : List String := ["addresses", "id", "state"]

def decode : Json → Decoded Replica
  | .obj entries => do
      let addresses ← Decode.optionalChannels (Entries.find? "addresses" entries)
      let id ← Decode.presentId (Entries.find? "id" entries)
      let state ← Decode.orDefault .unknown HealthState.decode (Entries.find? "state" entries)
      let id ← Decode.requiredId id
      return { id, addresses, state, color := none, extra := Decode.unmodelled fields entries }
  | v => .error (.wrongType v (.record "Replica"))

def fieldEntries (replica : Replica) : List (String × Json) :=
  [("addresses", .optionalChannels replica.addresses),
    ("color", .option StateColor.encode replica.color), ("id", .str replica.id),
    ("state", replica.state.encode)]

def encode (replica : Replica) : Json :=
  .object (replica.fieldEntries ++ replica.extra.entries)

end Replica

/-! ## Snapshots -/

/-- All that one poll of the file system tells. -/
structure FilesystemSnapshot where
  stats : FsStats
  devices : List Device
  replicas : List Replica
deriving Inhabited

namespace FilesystemSnapshot

def decode : Json → Decoded FilesystemSnapshot :=
  Decode.record "FilesystemSnapshot" 3
    (fun entries => do
      let devices ← Decode.orDefault [] (Decode.list Device.decode)
        (Entries.find? "devices" entries)
      let replicas ← Decode.orDefault [] (Decode.list Replica.decode)
        (Entries.find? "replicas" entries)
      let stats ← Decode.orDefault .empty FsStats.decode (Entries.find? "stats" entries)
      return { stats, devices, replicas })
    (fun items => do
      let stats ← Decode.orDefault .empty FsStats.decode items[0]?
      let devices ← Decode.orDefault [] (Decode.list Device.decode) items[1]?
      let replicas ← Decode.orDefault [] (Decode.list Replica.decode) items[2]?
      return { stats, devices, replicas })

def encode (snapshot : FilesystemSnapshot) : Json :=
  .obj [("devices", .arr (snapshot.devices.map Device.encode)),
    ("replicas", .arr (snapshot.replicas.map Replica.encode)),
    ("stats", snapshot.stats.encode)]

end FilesystemSnapshot

end NfsWatch
