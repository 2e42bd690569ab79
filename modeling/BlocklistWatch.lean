import BlocklistWatch.Coding.Basic
import BlocklistWatch.Coding.Finding
import BlocklistWatch.Coding.Health
import BlocklistWatch.Coding.Settings
import BlocklistWatch.Coding.State
import BlocklistWatch.CommandLine.Arguments
import BlocklistWatch.CommandLine.Display
import BlocklistWatch.CommandLine.Failure
import BlocklistWatch.CommandLine.Help
import BlocklistWatch.CommandLine.Log
import BlocklistWatch.CommandLine.Machine
import BlocklistWatch.CommandLine.Paint
import BlocklistWatch.CommandLine.Pass
import BlocklistWatch.CommandLine.Session
import BlocklistWatch.Config.Environment
import BlocklistWatch.Config.Error
import BlocklistWatch.Config.File
import BlocklistWatch.Config.Settings
import BlocklistWatch.Config.Validation
import BlocklistWatch.Decimal.Binary64
import BlocklistWatch.Decimal.Layout
import BlocklistWatch.Decimal.Shortest
import BlocklistWatch.Health.Connectivity
import BlocklistWatch.Health.Record
import BlocklistWatch.Health.Summary
import BlocklistWatch.Health.Tracker
import BlocklistWatch.Ipv4
import BlocklistWatch.Json.Decoder
import BlocklistWatch.Json.Number
import BlocklistWatch.Json.Reading
import BlocklistWatch.Json.Token
import BlocklistWatch.Json.Value
import BlocklistWatch.Main
import BlocklistWatch.Monitor.Files
import BlocklistWatch.Monitor.Run
import BlocklistWatch.Monitor.Stats
import BlocklistWatch.Probe.FanOut
import BlocklistWatch.Probe.Lookup
import BlocklistWatch.Probe.Prober
import BlocklistWatch.Probe.Reference
import BlocklistWatch.Probe.Schedule
import BlocklistWatch.Probe.Verdict
import BlocklistWatch.Proofs.Coding.Basic
import BlocklistWatch.Proofs.Coding.Connectivity
import BlocklistWatch.Proofs.Coding.State
import BlocklistWatch.Proofs.Config.Normalized
import BlocklistWatch.Proofs.Config.Overlay
import BlocklistWatch.Proofs.Config.Validation
import BlocklistWatch.Proofs.Decimal.Binary64
import BlocklistWatch.Proofs.Decimal.Shortest
import BlocklistWatch.Proofs.Decision
import BlocklistWatch.Proofs.Decision.Evidence
import BlocklistWatch.Proofs.Health.Counting
import BlocklistWatch.Proofs.Health.Noting
import BlocklistWatch.Proofs.Ipv4
import BlocklistWatch.Proofs.Json.Building
import BlocklistWatch.Proofs.Json.Decoding
import BlocklistWatch.Proofs.Json.Doubles
import BlocklistWatch.Proofs.Json.Fields
import BlocklistWatch.Proofs.Json.Mapped
import BlocklistWatch.Proofs.Json.Numbers
import BlocklistWatch.Proofs.Json.NumberText
import BlocklistWatch.Proofs.Json.Records
import BlocklistWatch.Proofs.Json.Scanning
import BlocklistWatch.Proofs.Monitor.Accounting
import BlocklistWatch.Proofs.Monitor.AskedZones
import BlocklistWatch.Proofs.Monitor.Convergence
import BlocklistWatch.Proofs.Monitor.DryRun
import BlocklistWatch.Proofs.Monitor.Endings
import BlocklistWatch.Proofs.Monitor.Order
import BlocklistWatch.Proofs.Monitor.Outage
import BlocklistWatch.Proofs.Monitor.Predicted
import BlocklistWatch.Proofs.Monitor.Reordered
import BlocklistWatch.Proofs.Monitor.Visit
import BlocklistWatch.Proofs.Probe.Check
import BlocklistWatch.Proofs.Probe.FanOut
import BlocklistWatch.Proofs.Probe.MissingZone
import BlocklistWatch.Proofs.Probe.Refusal
import BlocklistWatch.Proofs.Probe.Tasks
import BlocklistWatch.Proofs.Probe.Timing
import BlocklistWatch.Proofs.Report.Agreement
import BlocklistWatch.Proofs.Report.PrunedList
import BlocklistWatch.Proofs.Report.Shown
import BlocklistWatch.Proofs.Store.Atomicity
import BlocklistWatch.Proofs.Store.Backup
import BlocklistWatch.Proofs.Store.ChangedRow
import BlocklistWatch.Proofs.Store.ConfiguredZones
import BlocklistWatch.Proofs.Store.Reopening
import BlocklistWatch.Proofs.Store.Reordered
import BlocklistWatch.Proofs.Store.RowText
import BlocklistWatch.Proofs.Store.Saving
import BlocklistWatch.Proofs.Store.StoredZones
import BlocklistWatch.Proofs.Store.Update
import BlocklistWatch.Proofs.Text.Digits
import BlocklistWatch.Proofs.Text.Marks
import BlocklistWatch.Proofs.Text.Parser
import BlocklistWatch.Proofs.Text.Pieces
import BlocklistWatch.Proofs.Tickets.Attempts
import BlocklistWatch.Proofs.Tickets.OpenIssue
import BlocklistWatch.Proofs.Tickets.OpenIssueQuery
import BlocklistWatch.Proofs.Yaml.ListDocument
import BlocklistWatch.Proofs.Yaml.ReadText
import BlocklistWatch.Proofs.Yaml.TextList
import BlocklistWatch.Proofs.Yaml.Traits
import BlocklistWatch.Proofs.Yaml.WrittenText
import BlocklistWatch.Proofs.Zone.QueryGrammar
import BlocklistWatch.Proofs.Zone.QueryName
import BlocklistWatch.Proofs.Zone.Stored
import BlocklistWatch.Report.Format
import BlocklistWatch.Report.Health
import BlocklistWatch.RunContext
import BlocklistWatch.Store.Disk
import BlocklistWatch.Store.FileStore
import BlocklistWatch.Store.Row
import BlocklistWatch.Text.Affix
import BlocklistWatch.Text.Ascii
import BlocklistWatch.Text.Blank
import BlocklistWatch.Text.Number
import BlocklistWatch.Text.Parser
import BlocklistWatch.Text.Pieces
import BlocklistWatch.Text.Quoted
import BlocklistWatch.Text.Sorted
import BlocklistWatch.Text.Unprintable
import BlocklistWatch.Tickets.Desk
import BlocklistWatch.Tickets.Error
import BlocklistWatch.Tickets.Issue
import BlocklistWatch.Tickets.Jira.Client
import BlocklistWatch.Tickets.Jira.Time
import BlocklistWatch.Tickets.Ledger
import BlocklistWatch.Tickets.Retry
import BlocklistWatch.Tickets.Wording
import BlocklistWatch.Time.Calendar
import BlocklistWatch.Time.Duration
import BlocklistWatch.Time.Moment
import BlocklistWatch.Time.Rfc3339
import BlocklistWatch.Toml.Document
import BlocklistWatch.Toml.Numeric
import BlocklistWatch.Toml.Sheet
import BlocklistWatch.Toml.Tree
import BlocklistWatch.Toml.Value
import BlocklistWatch.Toml.Written
import BlocklistWatch.Transition
import BlocklistWatch.Web.Bytes
import BlocklistWatch.Web.Host
import BlocklistWatch.Web.Http
import BlocklistWatch.Web.Percent
import BlocklistWatch.Web.Script
import BlocklistWatch.Web.Url
import BlocklistWatch.Yaml.Document
import BlocklistWatch.Yaml.Plain
import BlocklistWatch.Yaml.Scalar
import BlocklistWatch.Yaml.Sheet
import BlocklistWatch.Zone.Name
import BlocklistWatch.Zone.Set
