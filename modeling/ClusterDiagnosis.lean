import ClusterDiagnosis.Analyzer.Basic
import ClusterDiagnosis.Analyzer.Builtin
import ClusterDiagnosis.Analyzer.Integration
import ClusterDiagnosis.Analyzer.Registry
import ClusterDiagnosis.Cluster.Api
import ClusterDiagnosis.Cluster.EventTime
import ClusterDiagnosis.Cluster.Kind
import ClusterDiagnosis.Cluster.Query
import ClusterDiagnosis.Command.Arguments
import ClusterDiagnosis.Command.Options
import ClusterDiagnosis.Command.Run
import ClusterDiagnosis.Completion.Chat
import ClusterDiagnosis.Completion.ErrorCode
import ClusterDiagnosis.Completion.Message
import ClusterDiagnosis.Completion.Service
import ClusterDiagnosis.Detect.Capacity
import ClusterDiagnosis.Detect.Log
import ClusterDiagnosis.Detect.Network
import ClusterDiagnosis.Detect.Pod
import ClusterDiagnosis.Detect.Snapshot
import ClusterDiagnosis.Detect.Workload
import ClusterDiagnosis.Diagnosis.Basic
import ClusterDiagnosis.Diagnosis.Record
import ClusterDiagnosis.Digest.Sha256
import ClusterDiagnosis.Fault
import ClusterDiagnosis.Files.Path
import ClusterDiagnosis.Files.Tree
import ClusterDiagnosis.Gauge
import ClusterDiagnosis.Json.Reader
import ClusterDiagnosis.Json.Writer
import ClusterDiagnosis.Main
import ClusterDiagnosis.Manifest.Cleanup
import ClusterDiagnosis.Manifest.Prompt
import ClusterDiagnosis.Masking
import ClusterDiagnosis.Number.Decimal
import ClusterDiagnosis.Number.Double
import ClusterDiagnosis.Number.Radix
import ClusterDiagnosis.Number.Shortest
import ClusterDiagnosis.Pipeline
import ClusterDiagnosis.Proofs.Analyzer.Blocks
import ClusterDiagnosis.Proofs.Analyzer.Composition
import ClusterDiagnosis.Proofs.Analyzer.Evidence
import ClusterDiagnosis.Proofs.Analyzer.Faults
import ClusterDiagnosis.Proofs.Analyzer.Filters
import ClusterDiagnosis.Proofs.Analyzer.Findings
import ClusterDiagnosis.Proofs.Analyzer.Integrations
import ClusterDiagnosis.Proofs.Analyzer.Recording
import ClusterDiagnosis.Proofs.Analyzer.Reordered
import ClusterDiagnosis.Proofs.Analyzer.Seen
import ClusterDiagnosis.Proofs.Analyzer.Steady
import ClusterDiagnosis.Proofs.Analyzer.Timing
import ClusterDiagnosis.Proofs.Cluster.Contract
import ClusterDiagnosis.Proofs.Cluster.Events
import ClusterDiagnosis.Proofs.Cluster.Reordered
import ClusterDiagnosis.Proofs.Cluster.Shape
import ClusterDiagnosis.Proofs.Completion.Chat
import ClusterDiagnosis.Proofs.Completion.Timeouts
import ClusterDiagnosis.Proofs.Detect.Plain
import ClusterDiagnosis.Proofs.Detect.Pod
import ClusterDiagnosis.Proofs.Detect.Reordered
import ClusterDiagnosis.Proofs.Detect.Shape
import ClusterDiagnosis.Proofs.Enrichment.Calls
import ClusterDiagnosis.Proofs.Enrichment.Course
import ClusterDiagnosis.Proofs.Gauge
import ClusterDiagnosis.Proofs.Gauge.History
import ClusterDiagnosis.Proofs.Json.RoundTrip
import ClusterDiagnosis.Proofs.Json.Scalar
import ClusterDiagnosis.Proofs.Masking
import ClusterDiagnosis.Proofs.Masking.Substitution
import ClusterDiagnosis.Proofs.Number.Order
import ClusterDiagnosis.Proofs.Pipeline.Course
import ClusterDiagnosis.Proofs.Pipeline.Frame
import ClusterDiagnosis.Proofs.Pipeline.Invariant
import ClusterDiagnosis.Proofs.Report.Json
import ClusterDiagnosis.Proofs.Scan.Alike
import ClusterDiagnosis.Proofs.Scan.Climb
import ClusterDiagnosis.Proofs.Scan.Owner
import ClusterDiagnosis.Proofs.Scan.Plain
import ClusterDiagnosis.Proofs.Scan.Running
import ClusterDiagnosis.Proofs.Text.Cut
import ClusterDiagnosis.Proofs.Text.Division
import ClusterDiagnosis.Proofs.Text.Recut
import ClusterDiagnosis.Proofs.Time.Timestamp
import ClusterDiagnosis.Proofs.Unmasking
import ClusterDiagnosis.Proofs.Value.Declared
import ClusterDiagnosis.Proofs.Value.Label
import ClusterDiagnosis.Report.Artifact
import ClusterDiagnosis.Report.Json
import ClusterDiagnosis.Report.Text
import ClusterDiagnosis.Run
import ClusterDiagnosis.Scan.Basic
import ClusterDiagnosis.Scan.Event
import ClusterDiagnosis.Scan.Owner
import ClusterDiagnosis.Settings.Environment
import ClusterDiagnosis.Settings.Integrations
import ClusterDiagnosis.Text.Blank
import ClusterDiagnosis.Text.Digits
import ClusterDiagnosis.Text.Letters
import ClusterDiagnosis.Text.Lines
import ClusterDiagnosis.Text.Printable
import ClusterDiagnosis.Text.Runs
import ClusterDiagnosis.Text.Search
import ClusterDiagnosis.Text.Substitution
import ClusterDiagnosis.Text.WordEnd
import ClusterDiagnosis.Time.Calendar
import ClusterDiagnosis.Time.DateTime
import ClusterDiagnosis.Time.Iso
import ClusterDiagnosis.Value.Basic
import ClusterDiagnosis.Value.Shape
import ClusterDiagnosis.Value.Written
import ClusterDiagnosis.Yaml.Cursor
import ClusterDiagnosis.Yaml.Datum
import ClusterDiagnosis.Yaml.Flaw
import ClusterDiagnosis.Yaml.Meaning
import ClusterDiagnosis.Yaml.Merge
import ClusterDiagnosis.Yaml.Node
import ClusterDiagnosis.Yaml.Property
import ClusterDiagnosis.Yaml.Scalar
import ClusterDiagnosis.Yaml.Source
import ClusterDiagnosis.Yaml.Stream
import ClusterDiagnosis.Yaml.Tag
import ClusterDiagnosis.Yaml.Timestamp
import ClusterDiagnosis.Yaml.Token
import ClusterDiagnosis.Proofs.Time.Written
import ClusterDiagnosis.Proofs.Cluster.EventTime
import ClusterDiagnosis.Proofs.Scan.Lookup
import ClusterDiagnosis.Proofs.Detect.References
import ClusterDiagnosis.Proofs.Detect.Secrets
import ClusterDiagnosis.Proofs.Pipeline.Secrets
import ClusterDiagnosis.Proofs.Files.Tree
import ClusterDiagnosis.Proofs.Report.Artifact
import ClusterDiagnosis.Proofs.Text.Search
import ClusterDiagnosis.Proofs.Text.Blank
import ClusterDiagnosis.Proofs.Completion.ErrorCode
import ClusterDiagnosis.Proofs.Manifest.Cleanup
import ClusterDiagnosis.Proofs.Text.Padding
import ClusterDiagnosis.Proofs.Masking.Trimmed
import ClusterDiagnosis.Proofs.Manifest.Written
import ClusterDiagnosis.Proofs.Files.Growth
import ClusterDiagnosis.Proofs.Files.Path
import ClusterDiagnosis.Proofs.Report.Places
import ClusterDiagnosis.Proofs.Report.Turns
import ClusterDiagnosis.Proofs.Report.Apart
import ClusterDiagnosis.Proofs.Settings.Integrations
import ClusterDiagnosis.Proofs.Yaml.Utf8
import ClusterDiagnosis.Proofs.Yaml.Ends
import ClusterDiagnosis.Proofs.Yaml.Scalar
import ClusterDiagnosis.Proofs.Yaml.Source
import ClusterDiagnosis.Proofs.Yaml.Stream
import ClusterDiagnosis.Proofs.Yaml.Node
import ClusterDiagnosis.Proofs.Yaml.Reading
import ClusterDiagnosis.Proofs.Detect.Selector
import ClusterDiagnosis.Proofs.Cluster.Connection
import ClusterDiagnosis.Proofs.Analyzer.Resolution
import ClusterDiagnosis.Proofs.Number.Rational
import ClusterDiagnosis.Proofs.Settings.Environment
import ClusterDiagnosis.Proofs.Text.Lines
import ClusterDiagnosis.Proofs.Detect.Log
import ClusterDiagnosis.Proofs.Manifest.Guidance
import ClusterDiagnosis.Proofs.Command.Arguments
import ClusterDiagnosis.Proofs.Command.Precedence
