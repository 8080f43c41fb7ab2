import NfsWatch.Config.CommandLine
import NfsWatch.Config.Flags
import NfsWatch.Config.Resolve
import NfsWatch.Decode
import NfsWatch.Endpoint
import NfsWatch.Http
import NfsWatch.Json.Basic
import NfsWatch.Json.Reader
import NfsWatch.Json.Writer
import NfsWatch.Main
import NfsWatch.Monitor.ClientList
import NfsWatch.Monitor.ClientSummary
import NfsWatch.Monitor.FilesystemStatus
import NfsWatch.Monitor.OperationTable
import NfsWatch.Monitor.StateSummary
import NfsWatch.Number.Binary64
import NfsWatch.Number.IntegerText
import NfsWatch.Number.Rounding
import NfsWatch.Number.Shortest
import NfsWatch.Page.Clients
import NfsWatch.Page.Scope
import NfsWatch.Page.Stats
import NfsWatch.Poll.Feed
import NfsWatch.Poll.Live
import NfsWatch.Poll.Log
import NfsWatch.Poll.Loop
import NfsWatch.Poll.Monitor
import NfsWatch.Poll.Sequencer
import NfsWatch.Proofs.Decode
import NfsWatch.Proofs.Monitor.Announced
import NfsWatch.Proofs.Monitor.ClientSummary
import NfsWatch.Proofs.Monitor.FailedDetails
import NfsWatch.Proofs.Monitor.History
import NfsWatch.Proofs.Monitor.SessionBatches
import NfsWatch.Proofs.Page.Announced
import NfsWatch.Proofs.Page.Follow
import NfsWatch.Proofs.Page.Run
import NfsWatch.Proofs.Page.Scope
import NfsWatch.Proofs.Poll.Announced
import NfsWatch.Proofs.Poll.Batches
import NfsWatch.Proofs.Poll.Contribution
import NfsWatch.Proofs.Poll.Convergence
import NfsWatch.Proofs.Poll.Failures
import NfsWatch.Proofs.Poll.Freshness
import NfsWatch.Proofs.Poll.Live
import NfsWatch.Proofs.Poll.Run
import NfsWatch.Proofs.Reconcile.Ascending
import NfsWatch.Proofs.Reconcile.CarriedForward
import NfsWatch.Proofs.Reconcile.Displayed
import NfsWatch.Proofs.Reconcile.KeyedHistory
import NfsWatch.Proofs.Reconcile.Patch
import NfsWatch.Proofs.Reconcile.Picked
import NfsWatch.Proofs.Reconcile.Reported
import NfsWatch.Proofs.Reconcile.Reread
import NfsWatch.Proofs.Reconcile.SectionHistory
import NfsWatch.Proofs.Report.Lines
import NfsWatch.Proofs.Server.ReadBack
import NfsWatch.Proofs.Server.Records
import NfsWatch.Reconcile.Field
import NfsWatch.Reconcile.List
import NfsWatch.Reconcile.Outcome
import NfsWatch.Reconcile.Section
import NfsWatch.Reconcile.Selection
import NfsWatch.Rehearsal.ClientsSession
import NfsWatch.Rehearsal.Clock
import NfsWatch.Rehearsal.LoopSession
import NfsWatch.Rehearsal.ScopeSession
import NfsWatch.Rehearsal.Script
import NfsWatch.Rehearsal.SourceSession
import NfsWatch.Rehearsal.Stage
import NfsWatch.Rehearsal.StatsSession
import NfsWatch.Report
import NfsWatch.Server.Channel
import NfsWatch.Server.Client
import NfsWatch.Server.Filesystem
import NfsWatch.Server.Health
import NfsWatch.Server.Operations
import NfsWatch.Server.State
import NfsWatch.Server.Version
import NfsWatch.Size
import NfsWatch.Table
import NfsWatch.Text.Blank
import NfsWatch.Text.Printable
import NfsWatch.Text.Quoted
import NfsWatch.Unicode.CombiningClass
import NfsWatch.Unicode.Composition
import NfsWatch.Unicode.Decomposition
import NfsWatch.Unicode.Direction
import NfsWatch.Unicode.Joining
import NfsWatch.Unicode.Mark
import NfsWatch.Unicode.Ranges
import NfsWatch.Url.Basic
import NfsWatch.Url.Domain
import NfsWatch.Url.Domain.Admission
import NfsWatch.Url.Domain.Folding
import NfsWatch.Url.Domain.Label
import NfsWatch.Url.Domain.Mapping
import NfsWatch.Url.Domain.Spelling
import NfsWatch.Url.Host
import NfsWatch.Url.Parts
import NfsWatch.Url.Path
import NfsWatch.Url.Percent
import NfsWatch.Url.Punycode
import NfsWatch.Proofs.Monitor.ClientPick
import NfsWatch.Proofs.Monitor.StatePicks
import NfsWatch.Proofs.Reconcile.Repeated
import NfsWatch.Proofs.Monitor.RepeatedPolls
import NfsWatch.Proofs.Poll.Modes
import NfsWatch.Proofs.Server.Addresses
import NfsWatch.Proofs.Monitor.CompleteDetails
import NfsWatch.Proofs.Page.ScopeHistory
import NfsWatch.Proofs.Monitor.Cadence
import NfsWatch.Proofs.Url.Segments
import NfsWatch.Proofs.Reconcile.SortedHistory
import NfsWatch.Proofs.Text.ByteOrder
import NfsWatch.Proofs.Monitor.OperationRows
import NfsWatch.Proofs.Monitor.Reordered
import NfsWatch.Proofs.Number.Numeral
import NfsWatch.Proofs.Server.ChannelForms
import NfsWatch.Proofs.Server.Aggregation
import NfsWatch.Proofs.Monitor.DetailRequests
import NfsWatch.Proofs.Config.Precedence
import NfsWatch.Proofs.Rehearsal.Replay
import NfsWatch.Proofs.Number.Rounding
import NfsWatch.Proofs.Number.Binary64
import NfsWatch.Proofs.Size.Text
import NfsWatch.Proofs.Rehearsal.Clients
