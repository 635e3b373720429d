import ProxyAudit.Binary64
import ProxyAudit.Bytes
import ProxyAudit.CommandLine.Arguments
import ProxyAudit.CommandLine.Completion
import ProxyAudit.CommandLine.Help
import ProxyAudit.CommandLine.Invocation
import ProxyAudit.CommandLine.Session
import ProxyAudit.Config.Basic
import ProxyAudit.Config.Decode
import ProxyAudit.Config.Document
import ProxyAudit.Config.File
import ProxyAudit.Digest.Basic
import ProxyAudit.Digest.Sha256
import ProxyAudit.Digest.Sink
import ProxyAudit.Domain.Direction
import ProxyAudit.Domain.Joining
import ProxyAudit.Domain.Mapping
import ProxyAudit.Domain.Name
import ProxyAudit.Domain.Punycode
import ProxyAudit.Fetch.Address
import ProxyAudit.Fetch.Body
import ProxyAudit.Fetch.Error
import ProxyAudit.Fetch.Fault
import ProxyAudit.Fetch.Proxy
import ProxyAudit.Fetch.Route
import ProxyAudit.Fetch.Transfer
import ProxyAudit.FileTree
import ProxyAudit.Files
import ProxyAudit.Http.Head
import ProxyAudit.Http.Message
import ProxyAudit.Http.Reader
import ProxyAudit.Jitter
import ProxyAudit.Json.Reader
import ProxyAudit.Json.Value
import ProxyAudit.Live.Connection
import ProxyAudit.Live.Storage
import ProxyAudit.Live.Threads
import ProxyAudit.Locations
import ProxyAudit.Main
import ProxyAudit.Span
import ProxyAudit.Text.Blank
import ProxyAudit.Text.CharMap
import ProxyAudit.Text.CodePoints
import ProxyAudit.Text.Decimal
import ProxyAudit.Text.Decomposition
import ProxyAudit.Text.Hex
import ProxyAudit.Text.Mark
import ProxyAudit.Text.Normal
import ProxyAudit.Text.Plain
import ProxyAudit.Text.Quoted
import ProxyAudit.Text.Unprintable
import ProxyAudit.Toml.Lexeme
import ProxyAudit.Toml.Number
import ProxyAudit.Toml.Printer
import ProxyAudit.Toml.Reader
import ProxyAudit.Toml.Tables
import ProxyAudit.Toml.Value
import ProxyAudit.Url.Basic
import ProxyAudit.Url.Host
import ProxyAudit.Verify.Audit
import ProxyAudit.Verify.Outcome
import ProxyAudit.Verify.Pool
import ProxyAudit.Verify.Report
import ProxyAudit.Verify.Worker
import ProxyAudit.World
import ProxyAudit.Proofs.Pool.Moves
import ProxyAudit.Proofs.Pool.Placement
import ProxyAudit.Proofs.Pool.Progress
import ProxyAudit.Proofs.Pool.Runs
import ProxyAudit.Proofs.Audit.Observed
import ProxyAudit.Proofs.Pool.Thorough
import ProxyAudit.Proofs.Audit.Ledger
import ProxyAudit.Proofs.Audit.Course
import ProxyAudit.Proofs.Audit.Order
import ProxyAudit.Proofs.Digest.Stream
import ProxyAudit.Proofs.Report.Accounting
import ProxyAudit.Proofs.Audit.Verdict
import ProxyAudit.Proofs.Audit.Handout
import ProxyAudit.Proofs.Pool.Ending
import ProxyAudit.Proofs.Json.Grammar
import ProxyAudit.Proofs.Json.Reading
import ProxyAudit.Proofs.Report.Rebuilt
import ProxyAudit.Proofs.Toml.Strings
import ProxyAudit.Proofs.Toml.Numbers
import ProxyAudit.Proofs.Toml.Documents
import ProxyAudit.Proofs.Config.RoundTrip
import ProxyAudit.Proofs.Session.Traces
import ProxyAudit.Proofs.Session.Lines
import ProxyAudit.Proofs.Session.Console
import ProxyAudit.Proofs.Fetch.Routes
import ProxyAudit.Proofs.Audit.Keeping
import ProxyAudit.Proofs.Session.Phases
import ProxyAudit.Proofs.Session.Keeping
import ProxyAudit.Proofs.Session.Traffic
import ProxyAudit.Proofs.Session.Gate
import ProxyAudit.Proofs.Audit.Provenance
import ProxyAudit.Proofs.Audit.Routing
import ProxyAudit.Proofs.CommandLine.Commands
import ProxyAudit.Proofs.Fetch.Steady
import ProxyAudit.Proofs.Session.Agreement
import ProxyAudit.Proofs.Files.Paths
import ProxyAudit.Proofs.Files.Places
import ProxyAudit.Proofs.Config.FirstRun
import ProxyAudit.Proofs.Session.Trees
import ProxyAudit.Proofs.Session.ConfigFile
import ProxyAudit.Proofs.Digest.Tokens
import ProxyAudit.Proofs.Digest.Standard
import ProxyAudit.Proofs.Digest.Families
import ProxyAudit.Proofs.Fetch.Journeys
import ProxyAudit.Proofs.Fetch.Redirects
import ProxyAudit.Proofs.Http.Framings
import ProxyAudit.Proofs.Http.Written
import ProxyAudit.Proofs.Fetch.WholeBody
import ProxyAudit.Proofs.Digest.Canonical
import ProxyAudit.Proofs.Pool.Records
import ProxyAudit.Proofs.Pool.Concurrency
import ProxyAudit.Proofs.Pool.Reordering
import ProxyAudit.Proofs.Pool.Abandonment
import ProxyAudit.Proofs.Audit.Abandonment
import ProxyAudit.Proofs.Audit.Waiting
import ProxyAudit.Proofs.Session.Overrides
import ProxyAudit.Proofs.Toml.Proper
import ProxyAudit.Proofs.Toml.Order
import ProxyAudit.Proofs.Config.Misfits
import ProxyAudit.Proofs.Config.Decoding
import ProxyAudit.Proofs.CommandLine.Spelling
import ProxyAudit.Proofs.CommandLine.Repetition
import ProxyAudit.Proofs.CommandLine.Written
import ProxyAudit.Proofs.Pool.Wrapping
import ProxyAudit.Proofs.Audit.Capacity
import ProxyAudit.Proofs.Files.Turns
import ProxyAudit.Proofs.Config.Stages
import ProxyAudit.Proofs.Config.Together
