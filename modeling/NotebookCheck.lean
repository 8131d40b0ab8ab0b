import NotebookCheck.Cluster.Certificate
import NotebookCheck.Cluster.Connection
import NotebookCheck.Cluster.Kubeconfig
import NotebookCheck.Cluster.Kubeconfig.Reading
import NotebookCheck.Cluster.Login
import NotebookCheck.Cluster.Pod
import NotebookCheck.Cluster.PodTarget
import NotebookCheck.Cluster.Server
import NotebookCheck.Cluster.Shapes.Container
import NotebookCheck.Cluster.Shapes.Kubeconfig
import NotebookCheck.Cluster.Shapes.Metadata
import NotebookCheck.Cluster.Shapes.Pod
import NotebookCheck.Cluster.Shapes.Volume
import NotebookCheck.Command
import NotebookCheck.CommandLine.Exit
import NotebookCheck.CommandLine.Invocation
import NotebookCheck.CommandLine.Level
import NotebookCheck.CommandLine.Machine
import NotebookCheck.CommandLine.Report
import NotebookCheck.CommandLine.Run
import NotebookCheck.CommandLine.Usage
import NotebookCheck.Configuration
import NotebookCheck.Configuration.Encoding
import NotebookCheck.Configuration.Environment
import NotebookCheck.Configuration.Loading
import NotebookCheck.Deadline
import NotebookCheck.Diagnostics
import NotebookCheck.Docker.Container
import NotebookCheck.Docker.Daemon
import NotebookCheck.Docker.Inspection
import NotebookCheck.Docker.Shapes
import NotebookCheck.Docker.Stream
import NotebookCheck.Fault
import NotebookCheck.File.Tree
import NotebookCheck.Http.Address
import NotebookCheck.Http.Exchange
import NotebookCheck.Http.Path
import NotebookCheck.Json
import NotebookCheck.Json.Cursor
import NotebookCheck.Json.Layout
import NotebookCheck.Json.Numeral
import NotebookCheck.Json.Quoted
import NotebookCheck.Json.Reader
import NotebookCheck.Json.Record
import NotebookCheck.Json.Skip
import NotebookCheck.Ledger
import NotebookCheck.Main
import NotebookCheck.Metrics
import NotebookCheck.Number.Binary64
import NotebookCheck.Number.Decimal
import NotebookCheck.Packages
import NotebookCheck.Packages.Encoding
import NotebookCheck.Poll
import NotebookCheck.Problem
import NotebookCheck.Proofs.Account
import NotebookCheck.Proofs.Answered
import NotebookCheck.Proofs.CheckCourse
import NotebookCheck.Proofs.CommandCourse
import NotebookCheck.Proofs.CommandDisplay
import NotebookCheck.Proofs.CommandEnd
import NotebookCheck.Proofs.ComparisonCourse
import NotebookCheck.Proofs.ConfigurationLoading
import NotebookCheck.Proofs.ConfigurationRoundTrip
import NotebookCheck.Proofs.ConfigurationShown
import NotebookCheck.Proofs.ConfigurationVerdict
import NotebookCheck.Proofs.ConnectionWait
import NotebookCheck.Proofs.ContainerCommand
import NotebookCheck.Proofs.Digits
import NotebookCheck.Proofs.DockerOutput
import NotebookCheck.Proofs.EnvironmentOverrides
import NotebookCheck.Proofs.ExaminationAccount
import NotebookCheck.Proofs.ExitCode
import NotebookCheck.Proofs.FailureMarkers
import NotebookCheck.Proofs.FailureText
import NotebookCheck.Proofs.JsonDocument
import NotebookCheck.Proofs.JsonNumber
import NotebookCheck.Proofs.JsonText
import NotebookCheck.Proofs.Ledger
import NotebookCheck.Proofs.LogFailures
import NotebookCheck.Proofs.LossyDecoding
import NotebookCheck.Proofs.OverrideBounds
import NotebookCheck.Proofs.PackageBatch
import NotebookCheck.Proofs.PackageImport
import NotebookCheck.Proofs.PackageIndependence
import NotebookCheck.Proofs.PackageName
import NotebookCheck.Proofs.PackageRequest
import NotebookCheck.Proofs.PodSession
import NotebookCheck.Proofs.PollAttempts
import NotebookCheck.Proofs.PollBounds
import NotebookCheck.Proofs.PollCourse
import NotebookCheck.Proofs.Polling
import NotebookCheck.Proofs.PrintedReports
import NotebookCheck.Proofs.ReadinessCourse
import NotebookCheck.Proofs.ReadinessStage
import NotebookCheck.Proofs.Records
import NotebookCheck.Proofs.Reply
import NotebookCheck.Proofs.ReportMarks
import NotebookCheck.Proofs.ReportViews
import NotebookCheck.Proofs.Requests
import NotebookCheck.Proofs.SessionAccount
import NotebookCheck.Proofs.SettingsBlame
import NotebookCheck.Proofs.SettingsBounds
import NotebookCheck.Proofs.SidecarResources
import NotebookCheck.Proofs.SnapshotRoundTrip
import NotebookCheck.Proofs.SnippetCourse
import NotebookCheck.Proofs.SnippetLimit
import NotebookCheck.Proofs.StoppedContainer
import NotebookCheck.Proofs.SuiteCourse
import NotebookCheck.Proofs.TargetPresence
import NotebookCheck.Proofs.TimedPhases
import NotebookCheck.Proofs.TomlDocument
import NotebookCheck.Proofs.TomlNumber
import NotebookCheck.Proofs.TomlText
import NotebookCheck.Proofs.UnusableConfiguration
import NotebookCheck.Proofs.Utf8
import NotebookCheck.Proofs.WaitValidity
import NotebookCheck.Proofs.Work
import NotebookCheck.Readiness
import NotebookCheck.Settings
import NotebookCheck.Settings.Encoding
import NotebookCheck.Shape
import NotebookCheck.Sidecar
import NotebookCheck.Snapshot
import NotebookCheck.Snapshot.Encoding
import NotebookCheck.Snippet
import NotebookCheck.Snippet.Report
import NotebookCheck.SortedMap
import NotebookCheck.Target
import NotebookCheck.Text.Base64
import NotebookCheck.Text.Blank
import NotebookCheck.Text.Case
import NotebookCheck.Text.Form
import NotebookCheck.Text.Pem
import NotebookCheck.Text.Quoted
import NotebookCheck.Text.Unicode
import NotebookCheck.Timestamp
import NotebookCheck.Toml.Quoted
import NotebookCheck.Toml.Reader
import NotebookCheck.Toml.Scalar
import NotebookCheck.Toml.Table
import NotebookCheck.Trace
import NotebookCheck.Yaml
import NotebookCheck.Yaml.Cursor
import NotebookCheck.Yaml.Document
import NotebookCheck.Yaml.Event
import NotebookCheck.Yaml.Flaw
import NotebookCheck.Yaml.Reader
import NotebookCheck.Yaml.Record
import NotebookCheck.Yaml.Scalar
import NotebookCheck.Yaml.Token
import NotebookCheck.Yaml.Token.BlockScalar
import NotebookCheck.Yaml.Token.Lexer
import NotebookCheck.Yaml.Token.Name
import NotebookCheck.Yaml.Token.PlainScalar
import NotebookCheck.Yaml.Token.QuotedScalar
