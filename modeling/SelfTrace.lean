import SelfTrace.Accumulator
import SelfTrace.Agent.Agents
import SelfTrace.Agent.Basic
import SelfTrace.Agent.Collaborators
import SelfTrace.Agent.Error
import SelfTrace.Agent.Handles
import SelfTrace.Agent.Recorded
import SelfTrace.Agent.ScriptFile
import SelfTrace.AgentState
import SelfTrace.Config
import SelfTrace.Demo
import SelfTrace.Environment
import SelfTrace.Files.Access
import SelfTrace.Files.Execute
import SelfTrace.Files.Failure
import SelfTrace.Files.Layout
import SelfTrace.Files.Path
import SelfTrace.Files.Tree
import SelfTrace.InputError
import SelfTrace.Introspection.Holdings
import SelfTrace.Introspection.Introspector
import SelfTrace.Introspection.MarkerDirectory
import SelfTrace.Introspection.ProcessTable
import SelfTrace.Introspection.Recorded
import SelfTrace.Introspection.SharedMarkers
import SelfTrace.Introspection.Token
import SelfTrace.Json.Basic
import SelfTrace.Json.Decoder
import SelfTrace.Json.Reader
import SelfTrace.Log.Error
import SelfTrace.Log.Event
import SelfTrace.Log.Filter
import SelfTrace.Log.Format
import SelfTrace.Log.Layout
import SelfTrace.Log.Level
import SelfTrace.Log.LocalTime
import SelfTrace.Log.Logger
import SelfTrace.Log.Pattern
import SelfTrace.Log.Settings
import SelfTrace.Log.Timestamp
import SelfTrace.Main
import SelfTrace.Metrics.Collector
import SelfTrace.Metrics.Descriptor
import SelfTrace.Metrics.Family
import SelfTrace.Metrics.Fingerprint
import SelfTrace.Metrics.Name
import SelfTrace.Metrics.Registry
import SelfTrace.Monitors
import SelfTrace.Number.Binary64
import SelfTrace.Number.Shortest
import SelfTrace.ProcessId
import SelfTrace.Proofs.Admission
import SelfTrace.Proofs.Answers
import SelfTrace.Proofs.Commands
import SelfTrace.Proofs.ConfigText
import SelfTrace.Proofs.Confinement
import SelfTrace.Proofs.Confirming
import SelfTrace.Proofs.Cutting
import SelfTrace.Proofs.Directories
import SelfTrace.Proofs.Exposure
import SelfTrace.Proofs.Forwarding
import SelfTrace.Proofs.JsonValues
import SelfTrace.Proofs.Keeping
import SelfTrace.Proofs.Ledger
import SelfTrace.Proofs.Lifetimes
import SelfTrace.Proofs.Locating
import SelfTrace.Proofs.MarkerNames
import SelfTrace.Proofs.MarkerOwners
import SelfTrace.Proofs.Markers
import SelfTrace.Proofs.Merging
import SelfTrace.Proofs.MetricNames
import SelfTrace.Proofs.Octets
import SelfTrace.Proofs.OpenMarkers
import SelfTrace.Proofs.Places
import SelfTrace.Proofs.Probing
import SelfTrace.Proofs.Provisioning
import SelfTrace.Proofs.Publications
import SelfTrace.Proofs.Refusals
import SelfTrace.Proofs.Registration
import SelfTrace.Proofs.Removal
import SelfTrace.Proofs.Replacement
import SelfTrace.Proofs.Replacing
import SelfTrace.Proofs.Scraping
import SelfTrace.Proofs.Searching
import SelfTrace.Proofs.Sharing
import SelfTrace.Proofs.Slots
import SelfTrace.Proofs.Start
import SelfTrace.Proofs.StatusFile
import SelfTrace.Proofs.Totals
import SelfTrace.Proofs.Watched
import SelfTrace.Proofs.WrittenIds
import SelfTrace.Resolver.Probe
import SelfTrace.Rules.Provisioner
import SelfTrace.Rules.Script
import SelfTrace.Scene
import SelfTrace.Text.Alphanumeric
import SelfTrace.Text.Blank
import SelfTrace.Text.Digits
import SelfTrace.Text.Duration
import SelfTrace.Text.Order
import SelfTrace.Text.Quoted
import SelfTrace.Text.Shown
import SelfTrace.Text.Utf8
import SelfTrace.Tool.Command
import SelfTrace.Tool.Launch
import SelfTrace.Tool.Locator
import SelfTrace.Tool.Output
import SelfTrace.Tool.Processes
import SelfTrace.Tool.Session
import SelfTrace.Tool.Template
import SelfTrace.Workload
import SelfTrace.Proofs.Reaping
import SelfTrace.Proofs.Overlays
import SelfTrace.Proofs.JsonReadings
import SelfTrace.Proofs.Routes
import SelfTrace.Proofs.Levels
import SelfTrace.Proofs.Senders
import SelfTrace.Proofs.ScriptArguments
import SelfTrace.Proofs.Tokens
import SelfTrace.Proofs.Namespaces
import SelfTrace.Proofs.JsonNumerals
import SelfTrace.Proofs.ObtainedIds
import SelfTrace.Proofs.Candidates
import SelfTrace.Proofs.Ancestors
