import NfsWatch.Monitor.ClientList
import NfsWatch.Monitor.ClientSummary
import NfsWatch.Monitor.FilesystemStatus
import NfsWatch.Monitor.OperationTable
import NfsWatch.Monitor.StateSummary
import NfsWatch.Poll.Feed
import NfsWatch.Size

/-!
# Report — feeds as lines of text

Each view is shown in one or several lines; the first line of a feed tells when it is stale. What
is missing is shown as `-`.
-/

namespace NfsWatch.Report

def healthSuffix (health : FeedHealth) : String :=
  if health.stale then s!" [stale after {health.failures} failures]" else ""

def flag (b : Bool) : String := if b then "true" else "false"

def addressText (channels : Option (List Channel)) : String :=
  ",".intercalate (Channel.addresses (channels.getD []))

def colorText (color : Option StateColor) : String := color.elim "-" StateColor.name

def deviceLine (device : Device) : String :=
  s!"device {device.id} state={device.state.name} color={colorText device.color}" ++
    s!" owner=" ++ device.owner.getD "-" ++
    s!" free={Size.humanizeOptional device.freeSpace}/{Size.humanizeOptional device.totalSpace}" ++
    s!" addrs={addressText device.addresses}"

def replicaLine (replica : Replica) : String :=
  s!"replica {replica.id} state={replica.state.name} color={colorText replica.color}" ++
    s!" addrs={addressText replica.addresses}"

/-- Capacity, and the records of each section that is not hidden. -/
def filesystemLines (feed : Feed FilesystemStatus.View) : List String :=
  let stats := feed.view.stats
  let size := Size.humanizeOptional
  let space :=
    s!"fs space total={size stats.totalSpace} free={size stats.freeSpace}" ++
      s!" avail={size stats.availSpace}" ++ healthSuffix feed.health
  let files :=
    s!"fs files total={size stats.totalFiles} free={size stats.freeFiles}" ++
      s!" avail={size stats.availFiles} repair_queue=" ++
      stats.repairQueueSize.elim "-" (fun n => IntegerText.write n.toNat)
  let devices := if feed.view.devices.hidden then [] else feed.view.devices.list.items
  let replicas := if feed.view.replicas.hidden then [] else feed.view.replicas.list.items
  space :: files :: devices.map deviceLine ++ replicas.map replicaLine

def operationsLine (family : ProtocolFamily) (feed : Feed OperationTable.View) : String :=
  let counts := feed.view.operations.items.map
    (fun row => row.name ++ "=" ++ IntegerText.write row.count.toNat)
  s!"{family.name} ops " ++ " ".intercalate counts ++ healthSuffix feed.health

/-- The clients, a star at the one picked. -/
def clientsLine (feed : Feed ClientList.View) : String :=
  let clients := feed.view.clients.items.map
    (fun id => if feed.view.selected = some id then "*" ++ id else id)
  "clients [" ++ " ".intercalate clients ++ "]" ++ healthSuffix feed.health

def statesLine (kind : StateKind) (states : ClientSummary.StateList) : String :=
  s!"  {kind.name} " ++ " ".intercalate states.ids.items ++ " selected=" ++
    states.selected.getD "-"

/-- One client, and each kind of states that it has. -/
def summaryLines (feed : Feed ClientSummary.View) : List String :=
  let view := feed.view
  let client :=
    s!"client {view.clientId} confirmed={flag view.confirmed}" ++
      s!" sessions={view.sessions.items.length} channels=[{view.channels}]" ++
      healthSuffix feed.health
  let kinds := StateKind.all.filter (fun kind => !(view.states kind).ids.items.isEmpty)
  client :: kinds.map (fun kind => statesLine kind (view.states kind))

def stateLine (kind : StateKind) (feed : Feed StateSummary.View) : String :=
  let view := feed.view
  match view.detail with
  | none => s!"  {kind.name} {view.stateId} pending"
  | some detail =>
      s!"  {kind.name} {view.stateId} expiry={detail.expiry} fh={detail.fh}" ++
        s!" revoked={flag detail.revoked} access={detail.access.rights.label}" ++
        s!" deny={detail.deny.rights.label}" ++ healthSuffix feed.health

end NfsWatch.Report
