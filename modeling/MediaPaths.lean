import MediaPaths.Text.Blank
import MediaPaths.Text.Replace
import MediaPaths.Number.Shortest
import MediaPaths.Duration.Text
import MediaPaths.Regex.Basic
import MediaPaths.Json.Decode
import MediaPaths.Json.Skip
import MediaPaths.Json.Printer
import MediaPaths.Name
import MediaPaths.LogLevel
import MediaPaths.Source.Kind
import MediaPaths.Source.Media
import MediaPaths.Source.Statistics
import MediaPaths.Url.Basic
import MediaPaths.Source.Template
import MediaPaths.Entry.Settings
import MediaPaths.Entry.Codec
import MediaPaths.Entry.Basic
import MediaPaths.Configuration.Store
import MediaPaths.Registry.Basic
import MediaPaths.Registry.Log
import MediaPaths.Server.Answering
import MediaPaths.Server.Control
import MediaPaths.Server.Error
import MediaPaths.Server.Paths
import MediaPaths.Server.Reload
import MediaPaths.Proofs.Server.Coherence
import MediaPaths.Proofs.Server.Readiness
import MediaPaths.Proofs.Supervision.Calls
import MediaPaths.Proofs.Supervision.Launches
import MediaPaths.Proofs.Supervision.Stopping
import MediaPaths.Proofs.Supervision.Depot
import MediaPaths.Proofs.Supervision.Shipping
import MediaPaths.Proofs.Supervision.Line
import MediaPaths.Proofs.Supervision.Route
import MediaPaths.Proofs.Supervision.Delivery
import MediaPaths.Proofs.Supervision.Reloads
import MediaPaths.Proofs.Server.Address
import MediaPaths.Proofs.Server.Scenes
import MediaPaths.Proofs.Server.Events
import MediaPaths.Proofs.Server.Tenure
import MediaPaths.Proofs.Server.Outcome
import MediaPaths.Proofs.Supervision.Handshake
import MediaPaths.Proofs.Server.Agreement
import MediaPaths.Proofs.Server.Plan
import MediaPaths.Proofs.Configuration.Documents
import MediaPaths.Proofs.Configuration.Resolution
import MediaPaths.Proofs.Registry.Lock
import MediaPaths.Proofs.Server.Attendance
import MediaPaths.Proofs.Server.Progress
import MediaPaths.Proofs.Server.Staleness
import MediaPaths.Proofs.Server.Disturbance
import MediaPaths.Proofs.Server.Activation
import MediaPaths.Proofs.Template.Filling
import MediaPaths.Proofs.Template.Joining
import MediaPaths.Proofs.Url.Authority
import MediaPaths.Proofs.Template.Origin
import MediaPaths.Proofs.Json.Order
import MediaPaths.Proofs.Entry.Members
import MediaPaths.Proofs.Configuration.Defaults
import MediaPaths.Proofs.Template.Fixed
import MediaPaths.Proofs.Supervision.Accounts
import MediaPaths.Proofs.Supervision.Pacing
import MediaPaths.Proofs.Supervision.Overlap
import MediaPaths.Proofs.Supervision.Speech
import MediaPaths.Proofs.Supervision.Returns
import MediaPaths.Proofs.Duration.Grammar
import MediaPaths.Proofs.Number.Nearest
import MediaPaths.Proofs.Json.Written
import MediaPaths.Proofs.Duration.Written
import MediaPaths.Proofs.Entry.Rules
import MediaPaths.Proofs.Entry.Stored
import MediaPaths.Proofs.Template.Scheme
import MediaPaths.Proofs.Template.Credentials
import MediaPaths.Proofs.Configuration.Declarations
import MediaPaths.Proofs.Configuration.Exact
import MediaPaths.Proofs.Entry.Reuse
