import Courier.Cli.Arguments
import Courier.Cli.Files
import Courier.Cli.Help
import Courier.Cli.Network
import Courier.Cli.Options
import Courier.Cli.Plan
import Courier.Cli.Program
import Courier.Disk.Basic
import Courier.Disk.Path
import Courier.Endpoint
import Courier.Endpoint.Shown
import Courier.Entity.Basic
import Courier.Entity.Catalogue
import Courier.Entity.ErrorReport
import Courier.Failure
import Courier.Fault
import Courier.Hook
import Courier.Http.Exchange
import Courier.Http.Message
import Courier.Http.Method
import Courier.Http.Wire
import Courier.Json.Direct
import Courier.Json.Mismatch
import Courier.Json.Printer
import Courier.Json.Reader
import Courier.Json.Scan
import Courier.Json.Shape
import Courier.Json.Value
import Courier.Log
import Courier.Main
import Courier.Number.Binary64
import Courier.Number.Shortest
import Courier.Proofs.Queue.Changes
import Courier.Proofs.Queue.Invariant
import Courier.Proofs.Queue.Permits
import Courier.Proofs.Queue.Resources
import Courier.Proofs.Queue.Story
import Courier.Queue.Limiter
import Courier.Queue.Mailbox
import Courier.Queue.Operations
import Courier.Queue.Phase
import Courier.Queue.Request
import Courier.Queue.Session
import Courier.Queue.Snapshot
import Courier.Queue.State
import Courier.Queue.Worker
import Courier.Review.Basic
import Courier.Review.Processor
import Courier.Review.Response
import Courier.Service
import Courier.Settings.Basic
import Courier.Settings.File
import Courier.Settings.Keeper
import Courier.Text.Base64
import Courier.Text.Printable
import Courier.Text.Quoted
import Courier.Text.Space
import Courier.Text.Split
import Courier.Text.Utf8
import Courier.Trace
import Courier.Url.Address
import Courier.Url.Authority
import Courier.Url.Basic
import Courier.Url.Domain
import Courier.Url.Domain.Composition
import Courier.Url.Domain.Direction
import Courier.Url.Domain.Mapping
import Courier.Url.Domain.Marks
import Courier.Url.Domain.Table
import Courier.Url.Form
import Courier.Url.Other
import Courier.Url.Parser
import Courier.Url.Percent
import Courier.Url.Punycode
import Courier.Url.Segments
import Courier.Proofs.Queue.Endings
import Courier.Proofs.Queue.Answers
import Courier.Proofs.Queue.Polls
import Courier.Proofs.Queue.Runs
import Courier.Proofs.Queue.Lifecycle
import Courier.Proofs.Queue.Callbacks
import Courier.Proofs.Queue.Cancellation
import Courier.Proofs.Queue.Concurrency
import Courier.Proofs.Queue.Stirs
import Courier.Proofs.Queue.Turns
import Courier.Proofs.Queue.Awake
import Courier.Proofs.Queue.Rest
import Courier.Proofs.Queue.Throughput
import Courier.Proofs.Queue.Accounting
import Courier.Proofs.Queue.Admission
import Courier.Proofs.Queue.Replies
import Courier.Proofs.Queue.Isolation
import Courier.Proofs.Queue.Race
import Courier.Proofs.Queue.Placing
import Courier.Proofs.Review.Ends
import Courier.Proofs.Queue.Sending
import Courier.Proofs.Text.Utf8
import Courier.Proofs.Json.Tokens
import Courier.Proofs.Json.Records
import Courier.Proofs.Settings.Text
import Courier.Proofs.Disk.Paths
import Courier.Proofs.Disk.Files
import Courier.Proofs.Settings.Saving
import Courier.Proofs.Settings.Desk
import Courier.Proofs.Settings.Agreement
import Courier.Proofs.Settings.Integrity
import Courier.Proofs.Json.Canonical
import Courier.Proofs.Json.Forms
import Courier.Proofs.Number.Binary64
import Courier.Proofs.Review.Classes
import Courier.Proofs.Json.Fits
import Courier.Proofs.Entity.Echo
import Courier.Proofs.Settings.Overlap
import Courier.Proofs.Cli.Course
import Courier.Proofs.Entity.Codes
import Courier.Proofs.Review.Abandonment
import Courier.Proofs.Entity.Readers
import Courier.Proofs.Url.Authority
import Courier.Proofs.Url.Base
import Courier.Proofs.Url.Query
import Courier.Proofs.Failing
import Courier.Proofs.Settings.Opening
import Courier.Proofs.Cli.Planning
import Courier.Proofs.Cli.Target
import Courier.Proofs.Disk.Spots
import Courier.Proofs.Settings.Footprint
import Courier.Proofs.Json.Passing
import Courier.Proofs.Json.Fields
import Courier.Proofs.Queue.Delivery
import Courier.Proofs.Hooks
import Courier.Proofs.Queue.Capacity
import Courier.Proofs.Json.Numbers
import Courier.Proofs.Endpoint.Building
