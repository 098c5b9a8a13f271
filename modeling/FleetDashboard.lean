import FleetDashboard.Cache.Basic
import FleetDashboard.Cache.Janitor
import FleetDashboard.Cache.Run
import FleetDashboard.Calendar.Date
import FleetDashboard.Calendar.Instant
import FleetDashboard.Calendar.Timestamp
import FleetDashboard.Chart.Alignment
import FleetDashboard.Chart.Basic
import FleetDashboard.Chart.Kind
import FleetDashboard.Chart.Month
import FleetDashboard.Chart.Query
import FleetDashboard.Chart.Window
import FleetDashboard.Deadline
import FleetDashboard.Fault
import FleetDashboard.Http.Cors
import FleetDashboard.Http.Message
import FleetDashboard.Http.Router
import FleetDashboard.Http.Target
import FleetDashboard.Inventory.Alert
import FleetDashboard.Inventory.Cluster
import FleetDashboard.Inventory.Organization
import FleetDashboard.Inventory.Snapshot
import FleetDashboard.Json.Basic
import FleetDashboard.Json.Reader
import FleetDashboard.Json.Record
import FleetDashboard.Json.Writer
import FleetDashboard.Kubernetes.ControlPlane
import FleetDashboard.Kubernetes.Schema
import FleetDashboard.Kubernetes.Service
import FleetDashboard.Metrics.Client
import FleetDashboard.Metrics.Reading
import FleetDashboard.Metrics.Response
import FleetDashboard.Metrics.Sample
import FleetDashboard.Net.BaseUrl
import FleetDashboard.Net.FormData
import FleetDashboard.Net.Host
import FleetDashboard.Net.Ip
import FleetDashboard.Net.Percent
import FleetDashboard.Net.Punycode
import FleetDashboard.Net.SocketAddress
import FleetDashboard.Number.Binary64
import FleetDashboard.Number.Decimal
import FleetDashboard.Number.Fixed
import FleetDashboard.Number.Quotient
import FleetDashboard.Proofs.Cache.Beat
import FleetDashboard.Proofs.Cache.Conservation
import FleetDashboard.Proofs.Cache.History
import FleetDashboard.Proofs.Cache.LatestWrite
import FleetDashboard.Proofs.Cache.Lookup
import FleetDashboard.Proofs.Cache.Schedule
import FleetDashboard.Proofs.Calendar.Civil
import FleetDashboard.Proofs.Calendar.Timestamp
import FleetDashboard.Proofs.Chart.AlertCalendar
import FleetDashboard.Proofs.Chart.Alignment
import FleetDashboard.Proofs.Chart.Chronology
import FleetDashboard.Proofs.Chart.Histogram
import FleetDashboard.Proofs.Chart.Month
import FleetDashboard.Proofs.Chart.Overflow
import FleetDashboard.Proofs.Chart.QueryReading
import FleetDashboard.Proofs.Failure
import FleetDashboard.Proofs.Http.ChartQuery
import FleetDashboard.Proofs.Inventory.AlertSpans
import FleetDashboard.Proofs.Inventory.Records
import FleetDashboard.Proofs.Json.Fields
import FleetDashboard.Proofs.Kubernetes.ServiceAddress
import FleetDashboard.Proofs.Kubernetes.ServiceDocument
import FleetDashboard.Proofs.Metrics.LastPoint
import FleetDashboard.Proofs.Metrics.MemberOrder
import FleetDashboard.Proofs.Metrics.WholeNumber
import FleetDashboard.Proofs.Net.FormData
import FleetDashboard.Proofs.Number.FixedText
import FleetDashboard.Proofs.Number.Hundredfold
import FleetDashboard.Proofs.Number.Nearest
import FleetDashboard.Proofs.Number.Order
import FleetDashboard.Proofs.Number.Rounding
import FleetDashboard.Proofs.Order.StableSort
import FleetDashboard.Proofs.Request.Ensures
import FleetDashboard.Proofs.Request.Paired
import FleetDashboard.Proofs.Service.ChartShape
import FleetDashboard.Proofs.Service.Complaint
import FleetDashboard.Proofs.Service.Composition
import FleetDashboard.Proofs.Service.Consultation
import FleetDashboard.Proofs.Service.Discovery
import FleetDashboard.Proofs.Service.Ending
import FleetDashboard.Proofs.Service.History
import FleetDashboard.Proofs.Service.Isolation
import FleetDashboard.Proofs.Service.MonthRequest
import FleetDashboard.Proofs.Service.Origin
import FleetDashboard.Proofs.Service.Provenance
import FleetDashboard.Proofs.Service.RegistryOutage
import FleetDashboard.Proofs.Service.Rejection
import FleetDashboard.Proofs.Service.Resolution
import FleetDashboard.Proofs.Service.Selection
import FleetDashboard.Proofs.Service.Soundness
import FleetDashboard.Proofs.Service.StackCards
import FleetDashboard.Proofs.Service.StageOrder
import FleetDashboard.Proofs.Service.Transparency
import FleetDashboard.Proofs.Service.ValueBlindness
import FleetDashboard.Proofs.Settings.Reading
import FleetDashboard.Proofs.Stack.FirstMatch
import FleetDashboard.Proofs.Stack.Share
import FleetDashboard.Proofs.Stack.Totals
import FleetDashboard.Proofs.Text.Digits
import FleetDashboard.Proofs.Text.Numeral
import FleetDashboard.Proofs.Text.Trim
import FleetDashboard.Proofs.Text.Utf8
import FleetDashboard.Service.ClusterName
import FleetDashboard.Service.Dashboard
import FleetDashboard.Service.Endpoint
import FleetDashboard.Service.Platform
import FleetDashboard.Service.Run
import FleetDashboard.Service.Session
import FleetDashboard.Service.World
import FleetDashboard.Settings
import FleetDashboard.Stack.Summary
import FleetDashboard.Stack.Utilization
import FleetDashboard.Text.Blank
import FleetDashboard.Text.Numeral
import FleetDashboard.Text.Utf8
