import NfsWatch.Monitor.FilesystemStatus
import NfsWatch.Monitor.OperationTable
import NfsWatch.Poll.Live

/-!
# Stats page — the file system and both families of counters

Three feeds that run side by side and do not depend on each other.
-/

namespace NfsWatch

structure StatsPage where
  filesystem : LiveLoop FilesystemSnapshot FilesystemStatus.View Empty
  nfs4 : LiveLoop OperationCounters OperationTable.View Empty
  nfs3 : LiveLoop OperationCounters OperationTable.View Empty

inductive StatsChange
  | filesystem
  | operations (family : ProtocolFamily)
deriving DecidableEq, Repr, Inhabited

def StatsChange.name : StatsChange → String
  | .filesystem => "filesystem"
  | .operations family => family.name

namespace StatsPage

def start (settings : PollSettings) : StatsPage where
  filesystem := .spawn (FilesystemStatus.monitor settings.hiddenSections) settings
  nfs4 := .spawn (OperationTable.monitor .nfs4) settings
  nfs3 := .spawn (OperationTable.monitor .nfs3) settings

def pending (page : StatsPage) : List StatsChange :=
  (if page.filesystem.hasUnseen then [.filesystem] else []) ++
    (if page.nfs3.hasUnseen then [.operations .nfs3] else []) ++
    (if page.nfs4.hasUnseen then [.operations .nfs4] else [])

def acknowledge (page : StatsPage) : StatsPage where
  filesystem := page.filesystem.acknowledge
  nfs4 := page.nfs4.acknowledge
  nfs3 := page.nfs3.acknowledge

end StatsPage

end NfsWatch
