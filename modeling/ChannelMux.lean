import ChannelMux.Address
import ChannelMux.Agent.Stock
import ChannelMux.Batch
import ChannelMux.CommandLine.Invocation
import ChannelMux.CommandLine.Level
import ChannelMux.CommandLine.Response
import ChannelMux.Delivery.Agent
import ChannelMux.Delivery.Ascent
import ChannelMux.Delivery.Demultiplexer
import ChannelMux.Delivery.Descent
import ChannelMux.Delivery.Enter
import ChannelMux.Delivery.Entrance
import ChannelMux.Delivery.Group
import ChannelMux.Delivery.Lifecycle
import ChannelMux.Delivery.Link
import ChannelMux.Delivery.Transport
import ChannelMux.Demo.Plan
import ChannelMux.Demo.Report
import ChannelMux.Demo.Run
import ChannelMux.Encoding.Error
import ChannelMux.Encoding.Field
import ChannelMux.Encoding.Message
import ChannelMux.Encoding.Routing
import ChannelMux.Event
import ChannelMux.Fork.Build
import ChannelMux.Fork.InPlace
import ChannelMux.Fork.Splice
import ChannelMux.HeaderSet
import ChannelMux.Json.Portable
import ChannelMux.Json.Printing
import ChannelMux.Json.Reading
import ChannelMux.Json.Token
import ChannelMux.Json.Value
import ChannelMux.Json.View
import ChannelMux.Main
import ChannelMux.Message
import ChannelMux.Node.Basic
import ChannelMux.Octets
import ChannelMux.Pipeline.Edit
import ChannelMux.Pipeline.InPlace
import ChannelMux.Placement
import ChannelMux.Proofs.Batch.Agreement
import ChannelMux.Proofs.Batch.Arrival
import ChannelMux.Proofs.Batch.Ascent
import ChannelMux.Proofs.Batch.Balance
import ChannelMux.Proofs.Batch.Books
import ChannelMux.Proofs.Batch.Course
import ChannelMux.Proofs.Batch.Ledger
import ChannelMux.Proofs.Batch.Piecemeal
import ChannelMux.Proofs.Batch.Shares
import ChannelMux.Proofs.Batch.SharingOut
import ChannelMux.Proofs.Batch.Splitting
import ChannelMux.Proofs.Batch.Stack
import ChannelMux.Proofs.Batch.Telling
import ChannelMux.Proofs.Delivery.Announcing
import ChannelMux.Proofs.Delivery.Bystanding
import ChannelMux.Proofs.Delivery.Calm
import ChannelMux.Proofs.Delivery.Charging
import ChannelMux.Proofs.Delivery.Climbing
import ChannelMux.Proofs.Delivery.Completion
import ChannelMux.Proofs.Delivery.Composing
import ChannelMux.Proofs.Delivery.Conveyance
import ChannelMux.Proofs.Delivery.Counting
import ChannelMux.Proofs.Delivery.Departing
import ChannelMux.Proofs.Delivery.Descending
import ChannelMux.Proofs.Delivery.Determinacy
import ChannelMux.Proofs.Delivery.Discipline
import ChannelMux.Proofs.Delivery.Dispatching
import ChannelMux.Proofs.Delivery.FanOut
import ChannelMux.Proofs.Delivery.Forwarding
import ChannelMux.Proofs.Delivery.HandingOn
import ChannelMux.Proofs.Delivery.Hearing
import ChannelMux.Proofs.Delivery.Insulation
import ChannelMux.Proofs.Delivery.Isolation
import ChannelMux.Proofs.Delivery.KeepingUp
import ChannelMux.Proofs.Delivery.Lifecycle
import ChannelMux.Proofs.Delivery.Likeness
import ChannelMux.Proofs.Delivery.Moving
import ChannelMux.Proofs.Delivery.Notifying
import ChannelMux.Proofs.Delivery.Oversight
import ChannelMux.Proofs.Delivery.Passage
import ChannelMux.Proofs.Delivery.Receipt
import ChannelMux.Proofs.Delivery.Region
import ChannelMux.Proofs.Delivery.Replacing
import ChannelMux.Proofs.Delivery.Rounds
import ChannelMux.Proofs.Delivery.Routing
import ChannelMux.Proofs.Delivery.Rule
import ChannelMux.Proofs.Delivery.Running
import ChannelMux.Proofs.Delivery.Seclusion
import ChannelMux.Proofs.Delivery.Sending
import ChannelMux.Proofs.Delivery.Simulation
import ChannelMux.Proofs.Delivery.Skeleton
import ChannelMux.Proofs.Delivery.Stacking
import ChannelMux.Proofs.Delivery.Timely
import ChannelMux.Proofs.Delivery.Tracking
import ChannelMux.Proofs.Delivery.Traffic
import ChannelMux.Proofs.Demo.Assembly
import ChannelMux.Proofs.Demo.Document
import ChannelMux.Proofs.Demo.Furnishing
import ChannelMux.Proofs.Demo.Joining
import ChannelMux.Proofs.Demo.Making
import ChannelMux.Proofs.Demo.Naming
import ChannelMux.Proofs.Demo.Outcome
import ChannelMux.Proofs.Demo.Playing
import ChannelMux.Proofs.Demo.Speaking
import ChannelMux.Proofs.Demo.Totals
import ChannelMux.Proofs.Encoding.Canonical
import ChannelMux.Proofs.Encoding.Consumption
import ChannelMux.Proofs.Encoding.Field
import ChannelMux.Proofs.Encoding.Header
import ChannelMux.Proofs.Encoding.Layout
import ChannelMux.Proofs.Encoding.Payload
import ChannelMux.Proofs.Encoding.RoundTrip
import ChannelMux.Proofs.Encoding.RoutingText
import ChannelMux.Proofs.Encoding.TextFields
import ChannelMux.Proofs.Encoding.Truncation
import ChannelMux.Proofs.Forking.Building
import ChannelMux.Proofs.Forking.Chronicle
import ChannelMux.Proofs.Forking.Ensured
import ChannelMux.Proofs.Forking.Founding
import ChannelMux.Proofs.Forking.InPlace
import ChannelMux.Proofs.Forking.Permission
import ChannelMux.Proofs.Forking.RegistryKept
import ChannelMux.Proofs.Forking.Soundness
import ChannelMux.Proofs.Gathering
import ChannelMux.Proofs.HeaderHistory
import ChannelMux.Proofs.HeaderSet
import ChannelMux.Proofs.Interleaving
import ChannelMux.Proofs.Json.Printing
import ChannelMux.Proofs.Network.Accounting
import ChannelMux.Proofs.Network.Action
import ChannelMux.Proofs.Network.Adoption
import ChannelMux.Proofs.Network.Answering
import ChannelMux.Proofs.Network.Attendance
import ChannelMux.Proofs.Network.Billing
import ChannelMux.Proofs.Network.Calmness
import ChannelMux.Proofs.Network.Enrollment
import ChannelMux.Proofs.Network.Ensuring
import ChannelMux.Proofs.Network.ExactlyOnce
import ChannelMux.Proofs.Network.Growth
import ChannelMux.Proofs.Network.Holdings
import ChannelMux.Proofs.Network.Inserting
import ChannelMux.Proofs.Network.Lineage
import ChannelMux.Proofs.Network.Makings
import ChannelMux.Proofs.Network.Membership
import ChannelMux.Proofs.Network.Mirroring
import ChannelMux.Proofs.Network.Movement
import ChannelMux.Proofs.Network.NodeLifecycle
import ChannelMux.Proofs.Network.Passivity
import ChannelMux.Proofs.Network.Passthrough
import ChannelMux.Proofs.Network.Recipient
import ChannelMux.Proofs.Network.Reentrancy
import ChannelMux.Proofs.Network.Seating
import ChannelMux.Proofs.Network.Splicing
import ChannelMux.Proofs.Network.Standing
import ChannelMux.Proofs.Network.StatusCourse
import ChannelMux.Proofs.Network.StatusLog
import ChannelMux.Proofs.Network.Subscriptions
import ChannelMux.Proofs.Network.Tagging
import ChannelMux.Proofs.Network.Undisturbed
import ChannelMux.Proofs.Network.Upkeep
import ChannelMux.Proofs.Network.ViewAgreement
import ChannelMux.Proofs.Network.ViewHistory
import ChannelMux.Proofs.Network.ViewNumbers
import ChannelMux.Proofs.Network.Wiring
import ChannelMux.Proofs.Registry
import ChannelMux.Proofs.Script
import ChannelMux.Proofs.Selection
import ChannelMux.Proofs.Settings.Documents
import ChannelMux.Proofs.Settings.Precedence
import ChannelMux.Proofs.Settings.Readings
import ChannelMux.Proofs.Store.Names
import ChannelMux.Proofs.Store.SameTables
import ChannelMux.Proofs.Store.Shape
import ChannelMux.Proofs.Store.Table
import ChannelMux.Proofs.Text.Hex
import ChannelMux.Refusal
import ChannelMux.Registry
import ChannelMux.RoutingHeader
import ChannelMux.Script
import ChannelMux.Settings.Basic
import ChannelMux.Settings.Document
import ChannelMux.Settings.Paths
import ChannelMux.Settings.Resolve
import ChannelMux.Stage.Stock
import ChannelMux.Status
import ChannelMux.Store.Basic
import ChannelMux.Store.Counters
import ChannelMux.Store.Describe
import ChannelMux.Store.Liveness
import ChannelMux.Store.Records
import ChannelMux.Store.Table
import ChannelMux.Text.Blank
import ChannelMux.Text.Decimal
import ChannelMux.Text.Hex
import ChannelMux.Text.Quoted
import ChannelMux.Text.Unprintable
import ChannelMux.Text.Utf8
import ChannelMux.View
