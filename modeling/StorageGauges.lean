import StorageGauges.Cluster.Api
import StorageGauges.Cluster.Listing
import StorageGauges.Cluster.Node
import StorageGauges.Cluster.Object
import StorageGauges.Cluster.Pod
import StorageGauges.Cluster.Pod.Shape
import StorageGauges.Cluster.Shape
import StorageGauges.Cluster.Watch
import StorageGauges.Decimal.Basic
import StorageGauges.Decimal.Layout
import StorageGauges.Decimal.Reader
import StorageGauges.Decimal.Shortest
import StorageGauges.DeployMode
import StorageGauges.Duration
import StorageGauges.Event
import StorageGauges.Exporter.Basic
import StorageGauges.Exporter.Nodes
import StorageGauges.Exporter.Pods
import StorageGauges.Exporter.Pool
import StorageGauges.Exporter.Process
import StorageGauges.Exporter.Schedule
import StorageGauges.Exporter.Scrape
import StorageGauges.Exporter.Sweep
import StorageGauges.Exporter.Ticker
import StorageGauges.Gauge.Exposition
import StorageGauges.Gauge.Family
import StorageGauges.Gauge.Feature
import StorageGauges.Gauge.Label
import StorageGauges.Gauge.Series
import StorageGauges.Gauge.Store
import StorageGauges.Health.Registry
import StorageGauges.Health.Report
import StorageGauges.Json.Number
import StorageGauges.Json.Basic
import StorageGauges.Json.Printer
import StorageGauges.Json.Reader
import StorageGauges.Json.Record
import StorageGauges.Json.Token
import StorageGauges.Kubelet.Certificate
import StorageGauges.Kubelet.Client
import StorageGauges.Main
import StorageGauges.NameMap
import StorageGauges.Probe
import StorageGauges.Profile
import StorageGauges.Quantity
import StorageGauges.Record
import StorageGauges.Rehearsal.Act.Gauges
import StorageGauges.Rehearsal.Act.Health
import StorageGauges.Rehearsal.Act.Nodes
import StorageGauges.Rehearsal.Act.Pods
import StorageGauges.Rehearsal.Act.Provision
import StorageGauges.Rehearsal.Act.Scrapes
import StorageGauges.Rehearsal.Agenda
import StorageGauges.Rehearsal.Basic
import StorageGauges.Rehearsal.Cluster
import StorageGauges.Rehearsal.Learn
import StorageGauges.Rehearsal.Reply
import StorageGauges.Rehearsal.Source
import StorageGauges.Rehearsal.Step
import StorageGauges.Rehearsal.Tick
import StorageGauges.Rehearsal.Time
import StorageGauges.Rehearsal.Wait
import StorageGauges.Rehearsal.Work
import StorageGauges.Settings.Basic
import StorageGauges.Settings.Environment
import StorageGauges.Settings.Value
import StorageGauges.Stats.Percentage
import StorageGauges.Stats.Query
import StorageGauges.Stats.Route
import StorageGauges.Stats.Summary
import StorageGauges.Target
import StorageGauges.Text.Base64
import StorageGauges.Text.Blank
import StorageGauges.Text.Fnv
import StorageGauges.Text.Hexadecimal
import StorageGauges.Text.Percent
import StorageGauges.Text.Printable
import StorageGauges.Text.Punycode
import StorageGauges.Text.Quoted
import StorageGauges.Text.Utf8
import StorageGauges.Url.Address
import StorageGauges.Url.Basic
import StorageGauges.Url.Host
import StorageGauges.Proofs.Gauge.Index
import StorageGauges.Proofs.Gauge.Written
import StorageGauges.Proofs.Pods.Cache
import StorageGauges.Proofs.Run
import StorageGauges.Proofs.Nodes.Flight
import StorageGauges.Proofs.Pods.Unswept
import StorageGauges.Proofs.Nodes.Unswept
import StorageGauges.Proofs.Gauge.Sharing
import StorageGauges.Proofs.Gauge.FiniteMap
import StorageGauges.Proofs.Underway
import StorageGauges.Proofs.Gauge.Reading
import StorageGauges.Proofs.Pods.Listed
import StorageGauges.Proofs.Pods.Profiles
import StorageGauges.Proofs.Pods.Paged
import StorageGauges.Proofs.Scrapes.AtOnce
import StorageGauges.Proofs.Scrapes.SideBySide
import StorageGauges.Proofs.Reports
import StorageGauges.Proofs.Nodes.LastReady
import StorageGauges.Proofs.Text.Utf8
import StorageGauges.Proofs.Json.Numeral
import StorageGauges.Proofs.Scrapes.Given
import StorageGauges.Proofs.Json.Conversion
import StorageGauges.Proofs.Json.Text
import StorageGauges.Proofs.Json.Document
import StorageGauges.Proofs.Json.Record
import StorageGauges.Proofs.Stats.Rendering
import StorageGauges.Proofs.Scrapes.Unreadable
import StorageGauges.Proofs.Pods.LastSeen
import StorageGauges.Proofs.Health.Collector
import StorageGauges.Proofs.Pods.Captured
import StorageGauges.Proofs.Scrapes.Workers
import StorageGauges.Proofs.Scrapes.Manned
import StorageGauges.Proofs.Scrapes.Rehearsed
import StorageGauges.Proofs.Health.Blocks
import StorageGauges.Proofs.Occurrences
import StorageGauges.Proofs.Gauge.Ledger
import StorageGauges.Proofs.Scrapes.Namespaces
import StorageGauges.Proofs.Nodes.LocalNode
import StorageGauges.Proofs.Settings.Accepted
import StorageGauges.Proofs.Settings.Startup
import StorageGauges.Proofs.Decimal.Digits
import StorageGauges.Proofs.Settings.Verbatim
import StorageGauges.Proofs.Health.Scheduler
import StorageGauges.Proofs.Health.Started
import StorageGauges.Proofs.Json.Written
import StorageGauges.Proofs.Json.Recovery
import StorageGauges.Proofs.Documents
import StorageGauges.Proofs.Gauge.Eviction
import StorageGauges.Proofs.Scrapes.Repeated
import StorageGauges.Proofs.Scrapes.Exits
import StorageGauges.Proofs.Url.Addresses
import StorageGauges.Proofs.Url.Web
import StorageGauges.Proofs.Kubelet.Endpoint
import StorageGauges.Proofs.Scrapes.Remaining
import StorageGauges.Proofs.Decimal.Spelled
import StorageGauges.Proofs.Quantity.Written
import StorageGauges.Proofs.Pods.Specified
import StorageGauges.Proofs.Stats.Retries
import StorageGauges.Proofs.Nodes.Listed
import StorageGauges.Proofs.Url.Parts
import StorageGauges.Proofs.Kubelet.Credentials
import StorageGauges.Proofs.Gauge.Lifetime
import StorageGauges.Proofs.Scrapes.Measured
