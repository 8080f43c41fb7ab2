import NfsWatch.Poll.Monitor
import NfsWatch.Reconcile.Field

/-!
# Filesystem status — capacity, devices and replicas

Capacity follows each response; devices and replicas are sections of their own.
-/

namespace NfsWatch.FilesystemStatus

structure View where
  stats : FsStats
  devices : Section Device
  replicas : Section Replica
deriving Inhabited

def apply (policy : HiddenPolicy) (view : View) (snapshot : FilesystemSnapshot) : Applied View :=
  let (stats, statsChanged) := view.stats.patch snapshot.stats
  let (devices, devicesOutcome) := view.devices.apply snapshot.devices policy
  let (replicas, replicasOutcome) := view.replicas.apply snapshot.replicas policy
  { view := ⟨stats, devices, replicas⟩
    changed := statsChanged || devicesOutcome.changed || replicasOutcome.changed
    followUps := none }

def monitor (policy : HiddenPolicy) : Monitor FilesystemSnapshot View Empty where
  name := "filesystem"
  endpoint := .filesystem
  initial := ⟨.empty, .empty, .empty⟩
  decode := FilesystemSnapshot.decode
  apply := apply policy
  command := noCommand
  applyFollowUp := noFollowUp

end NfsWatch.FilesystemStatus
