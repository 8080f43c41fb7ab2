import NfsWatch.Endpoint
import NfsWatch.Poll.Sequencer
import NfsWatch.Server.Client

/-!
# Log — what the dashboard reports about its own work

A log entry is a constructor with what it reports; `level` says how urgent it is and `fields` lays
it out. What is not there is written `-`.
-/

namespace NfsWatch

inductive LogLevel
  | debug
  | info
  | warn
deriving DecidableEq, Repr, Inhabited

def LogLevel.name : LogLevel → String
  | .debug => "debug"
  | .info => "info"
  | .warn => "warn"

inductive LogEntry
  | loopStarted (feed : String) (endpoint : Endpoint) (intervalMs : Nat) (sequencing : Sequencing)
  | loopStopped (feed : String) (issued : Nat)
  | superseded (feed : String) (tick accepted : Nat)
  | recovered (feed : String) (tick : Nat)
  | becameStale (feed : String) (failures : Nat) (error : FetchError)
  /-- The first failure in a row. -/
  | fetchFailed (feed : String) (error : FetchError)
  | fetchFailedAgain (feed : String) (failures : Nat) (error : FetchError)
  | followUpDiscarded (feed : String) (endpoint : Endpoint)
  | followUpFailed (feed : String) (error : FetchError)
  | pageOpened (page : String)
  | summaryRetargeted (client : Option String)
  | stateRetargeted (kind : StateKind) (state : Option String)
  | revokeSent (client : String)
  | revokeFailed (client : String) (error : FetchError)
deriving DecidableEq, Inhabited

namespace LogEntry

def level : LogEntry → LogLevel
  | .loopStarted .. | .loopStopped .. | .recovered .. | .pageOpened .. | .revokeSent .. => .info
  | .becameStale .. | .fetchFailed .. | .followUpFailed .. | .revokeFailed .. => .warn
  | _ => .debug

def event : LogEntry → String
  | .loopStarted .. => "poll_loop_start"
  | .loopStopped .. => "poll_loop_stop"
  | .superseded .. => "poll_response_superseded"
  | .recovered .. => "poll_feed_recovered"
  | .becameStale .. => "poll_feed_stale"
  | .fetchFailed .. | .fetchFailedAgain .. => "poll_fetch_failed"
  | .followUpDiscarded .. => "poll_follow_up_discarded"
  | .followUpFailed .. => "poll_follow_up_failed"
  | .pageOpened .. => "page_open"
  | .summaryRetargeted .. => "summary_retarget"
  | .stateRetargeted .. => "state_retarget"
  | .revokeSent .. => "client_revoke_sent"
  | .revokeFailed .. => "client_revoke_failed"

def fields : LogEntry → List (String × Json)
  | .loopStarted feed endpoint intervalMs sequencing =>
      [("feed", .str feed), ("endpoint", .str endpoint.path), ("interval_ms", .nat intervalMs),
        ("sequencing", .str sequencing.name)]
  | .loopStopped feed issued => [("feed", .str feed), ("issued", .nat issued)]
  | .superseded feed tick accepted =>
      [("feed", .str feed), ("tick", .nat tick), ("accepted", .nat accepted)]
  | .recovered feed tick => [("feed", .str feed), ("tick", .nat tick)]
  | .becameStale feed failures error | .fetchFailedAgain feed failures error =>
      [("feed", .str feed), ("failures", .nat failures), ("error", .str error.message)]
  | .fetchFailed feed error | .followUpFailed feed error =>
      [("feed", .str feed), ("kind", .str error.kind), ("error", .str error.message)]
  | .followUpDiscarded feed endpoint => [("feed", .str feed), ("endpoint", .str endpoint.path)]
  | .pageOpened page => [("page", .str page)]
  | .summaryRetargeted client => [("client_id", .str (client.getD "-"))]
  | .stateRetargeted kind state =>
      [("kind", .str kind.name), ("state_id", .str (state.getD "-"))]
  | .revokeSent client => [("client_id", .str client)]
  | .revokeFailed client error =>
      [("client_id", .str client), ("kind", .str error.kind), ("error", .str error.message)]

def encode (entry : LogEntry) : Json :=
  .object (("level", .str entry.level.name) :: ("event", .str entry.event) :: entry.fields)

end LogEntry

end NfsWatch
