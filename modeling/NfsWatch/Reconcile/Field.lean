import NfsWatch.Server.Filesystem
import NfsWatch.Server.Operations
import NfsWatch.Reconcile.List

/-!
# Patching records field by field

Three rules cover all fields. `assign` writes a value that differs; `assignPresent` does so only
for a value that the snapshot has, so that a field which it leaves out keeps its value;
`assignExtra` merges the entries that are not modelled key by key and leaves those in place that
the snapshot lacks. A value is not written over one that denotes the same, so the sign of a
floating-point zero never counts as a change.
-/

namespace NfsWatch

namespace Patch

variable {α : Type}

/-- The value, and whether it differs from what the field held. -/
def assignBy (same : α → α → Bool) (slot value : α) : α × Bool :=
  if same slot value then (slot, false) else (value, true)

def assign [DecidableEq α] (slot value : α) : α × Bool := assignBy (fun a b => a == b) slot value

/-- Whether two optional values are both missing or denote the same. -/
def sameOption (same : α → α → Bool) : Option α → Option α → Bool
  | none, none => true
  | some a, some b => same a b
  | _, _ => false

/-- Writes a value that is present and differs. -/
def assignPresentBy (same : α → α → Bool) (slot value : Option α) : Option α × Bool :=
  match value with
  | none => (slot, false)
  | some a => assignBy (sameOption same) slot (some a)

def assignPresent [DecidableEq α] (slot value : Option α) : Option α × Bool :=
  assignPresentBy (fun a b => a == b) slot value

def assignEntry (table : Table Json × Bool) (entry : String × Json) : Table Json × Bool :=
  match table.1.find? entry.1 with
  | none => (table.1.insert entry.1 entry.2, true)
  | some current =>
      if current.same entry.2 then table else (table.1.insert entry.1 entry.2, true)

def assignExtra (slot value : Table Json) : Table Json × Bool :=
  value.entries.foldl assignEntry (slot, false)

end Patch

open Patch

/-- All figures are written as the snapshot has them, missing ones included. -/
def FsStats.patch (current incoming : FsStats) : FsStats × Bool :=
  let totalSpace := assign current.totalSpace incoming.totalSpace
  let freeSpace := assign current.freeSpace incoming.freeSpace
  let availSpace := assign current.availSpace incoming.availSpace
  let totalFiles := assign current.totalFiles incoming.totalFiles
  let freeFiles := assign current.freeFiles incoming.freeFiles
  let availFiles := assign current.availFiles incoming.availFiles
  let repairQueueSize := assign current.repairQueueSize incoming.repairQueueSize
  ({ totalSpace := totalSpace.1, freeSpace := freeSpace.1, availSpace := availSpace.1,
     totalFiles := totalFiles.1, freeFiles := freeFiles.1, availFiles := availFiles.1,
     repairQueueSize := repairQueueSize.1 },
    totalSpace.2 || freeSpace.2 || availSpace.2 || totalFiles.2 || freeFiles.2 ||
      availFiles.2 || repairQueueSize.2)

/-- The device with its colour, and without an entry that would shadow it. -/
def Device.derived (device : Device) : Device :=
  { device with extra := device.extra.erase "color", color := some device.state.color }

/-- State and colour follow the snapshot; what the snapshot leaves out stays. -/
def Device.patch (current incoming : Device) : Device × Bool :=
  let owner := assignPresent current.owner incoming.owner
  let addresses := assignPresent current.addresses incoming.addresses
  let state := assign current.state incoming.state
  let totalSpace := assignPresent current.totalSpace incoming.totalSpace
  let freeSpace := assignPresent current.freeSpace incoming.freeSpace
  let availSpace := assignPresent current.availSpace incoming.availSpace
  let priority := assignPresentBy Binary64.same current.priority incoming.priority
  let color := assign current.color incoming.color
  let extra := assignExtra current.extra incoming.extra
  ({ current with
      owner := owner.1, addresses := addresses.1, state := state.1,
      totalSpace := totalSpace.1, freeSpace := freeSpace.1, availSpace := availSpace.1,
      priority := priority.1, color := color.1, extra := extra.1 },
    owner.2 || addresses.2 || state.2 || totalSpace.2 || freeSpace.2 || availSpace.2 ||
      priority.2 || color.2 || extra.2)

instance : Keyed Device where
  key := Device.id
  derived := Device.derived
  patch := Device.patch

def Replica.derived (replica : Replica) : Replica :=
  { replica with extra := replica.extra.erase "color", color := some replica.state.color }

def Replica.patch (current incoming : Replica) : Replica × Bool :=
  let addresses := assignPresent current.addresses incoming.addresses
  let state := assign current.state incoming.state
  let color := assign current.color incoming.color
  let extra := assignExtra current.extra incoming.extra
  ({ current with addresses := addresses.1, state := state.1, color := color.1, extra := extra.1 },
    addresses.2 || state.2 || color.2 || extra.2)

instance : Keyed Replica where
  key := Replica.id
  derived := Replica.derived
  patch := Replica.patch

def OperationCount.patch (current incoming : OperationCount) : OperationCount × Bool :=
  let count := assign current.count incoming.count
  ({ current with count := count.1 }, count.2)

instance : Keyed OperationCount where
  key := OperationCount.name
  derived := id
  patch := OperationCount.patch

end NfsWatch
