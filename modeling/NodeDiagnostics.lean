import NodeDiagnostics.Cluster.Api
import NodeDiagnostics.Cluster.Command
import NodeDiagnostics.Cluster.Pod
import NodeDiagnostics.Cluster.Roster
import NodeDiagnostics.Cluster.Status
import NodeDiagnostics.Cluster.Watch
import NodeDiagnostics.Collection.Consumption
import NodeDiagnostics.Collection.GadgetTrace
import NodeDiagnostics.Collection.Pass
import NodeDiagnostics.CommandLine
import NodeDiagnostics.CommandLine.Help
import NodeDiagnostics.Container
import NodeDiagnostics.Dns.Frame
import NodeDiagnostics.Dns.Name
import NodeDiagnostics.Dns.Packet
import NodeDiagnostics.Error
import NodeDiagnostics.Event
import NodeDiagnostics.Export.BlobAccount
import NodeDiagnostics.Export.Exporter
import NodeDiagnostics.Export.PercentEncoding
import NodeDiagnostics.Export.Store
import NodeDiagnostics.Host.Kernel
import NodeDiagnostics.Host.Processes
import NodeDiagnostics.Json.Basic
import NodeDiagnostics.Json.Fault
import NodeDiagnostics.Json.Reader
import NodeDiagnostics.Json.Shape
import NodeDiagnostics.Json.Token
import NodeDiagnostics.Json.Writer
import NodeDiagnostics.Main
import NodeDiagnostics.Net.ConnectionTable
import NodeDiagnostics.Net.Endpoint
import NodeDiagnostics.Net.Form
import NodeDiagnostics.Net.SocketTable
import NodeDiagnostics.Net.Status
import NodeDiagnostics.Net.Target
import NodeDiagnostics.Net.Url
import NodeDiagnostics.Number.Binary64
import NodeDiagnostics.Number.Shortest
import NodeDiagnostics.Probe.Connections
import NodeDiagnostics.Probe.NamespaceProbe
import NodeDiagnostics.Probe.NamespaceWorkers
import NodeDiagnostics.Probe.Packets
import NodeDiagnostics.Probe.Tracing
import NodeDiagnostics.Registry
import NodeDiagnostics.Request
import NodeDiagnostics.Settings
import NodeDiagnostics.Settings.Cloud
import NodeDiagnostics.Text.Blank
import NodeDiagnostics.Text.Numeral
import NodeDiagnostics.Text.Printable
import NodeDiagnostics.Text.Quoted
import NodeDiagnostics.Text.Utf8
import NodeDiagnostics.Time.Instant
import NodeDiagnostics.Trace.Connection
import NodeDiagnostics.Trace.Journal
import NodeDiagnostics.Trace.Run
import NodeDiagnostics.Tracer
import NodeDiagnostics.Usage.Metrics
import NodeDiagnostics.Usage.Quantity
import NodeDiagnostics.Proofs.Cluster.Agreement
import NodeDiagnostics.Proofs.Cluster.Balance
import NodeDiagnostics.Proofs.Cluster.Listing
import NodeDiagnostics.Proofs.Cluster.Relisting
import NodeDiagnostics.Proofs.Probe.Attribution
import NodeDiagnostics.Proofs.Probe.Embodiment
import NodeDiagnostics.Proofs.Probe.Endings
import NodeDiagnostics.Proofs.Probe.Membership
import NodeDiagnostics.Proofs.Probe.Silence
import NodeDiagnostics.Proofs.Registry.Replay
import NodeDiagnostics.Proofs.Registry.Seeding
import NodeDiagnostics.Proofs.Registry.Subscription
import NodeDiagnostics.Proofs.Trace.Accounts
import NodeDiagnostics.Proofs.Trace.Attachment
import NodeDiagnostics.Proofs.Trace.Connection
import NodeDiagnostics.Proofs.Trace.Crossing
import NodeDiagnostics.Proofs.Trace.Teardown
import NodeDiagnostics.Proofs.Export.Record
import NodeDiagnostics.Proofs.Export.Simulation
import NodeDiagnostics.Proofs.Export.Keeping
import NodeDiagnostics.Proofs.Collection.Fates
import NodeDiagnostics.Proofs.Collection.Placement
import NodeDiagnostics.Proofs.Collection.Isolation
import NodeDiagnostics.Proofs.Collection.Exclusion
import NodeDiagnostics.Proofs.Json.Order
import NodeDiagnostics.Proofs.Json.Reading
import NodeDiagnostics.Proofs.Trace.Fields
import NodeDiagnostics.Proofs.Trace.Document
import NodeDiagnostics.Proofs.Probe.Polling
import NodeDiagnostics.Proofs.Dns.Soundness
import NodeDiagnostics.Proofs.Text.Replacement
import NodeDiagnostics.Proofs.Dns.Limit
import NodeDiagnostics.Proofs.Text.Numeral
import NodeDiagnostics.Proofs.Usage.Amount
import NodeDiagnostics.Proofs.Usage.Rounding
import NodeDiagnostics.Proofs.Time.Calendar
import NodeDiagnostics.Proofs.Time.Rendering
import NodeDiagnostics.Proofs.Trace.Keys
import NodeDiagnostics.Proofs.Trace.Publishing
import NodeDiagnostics.Proofs.Dns.Truncation
import NodeDiagnostics.Proofs.Text.Words
import NodeDiagnostics.Proofs.Text.Hexadecimal
import NodeDiagnostics.Proofs.Net.AddressText
import NodeDiagnostics.Proofs.Net.Url
import NodeDiagnostics.Proofs.Net.SocketRow
import NodeDiagnostics.Proofs.Net.SocketTable
import NodeDiagnostics.Proofs.Net.SocketFields
import NodeDiagnostics.Proofs.Host.Identifier
import NodeDiagnostics.Proofs.Host.FirstProcess
import NodeDiagnostics.Proofs.Export.BlobNames
