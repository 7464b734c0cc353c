import RemoteMounts.Cluster.Acquire
import RemoteMounts.Cluster.Backoff
import RemoteMounts.Cluster.Basic
import RemoteMounts.Cluster.Blueprint
import RemoteMounts.Cluster.Fault
import RemoteMounts.Cluster.Waiting
import RemoteMounts.CommandLine.Invocation
import RemoteMounts.CommandLine.Run
import RemoteMounts.Credential.ProfileArn
import RemoteMounts.Credential.Secret
import RemoteMounts.Datum
import RemoteMounts.Declaration.Basic
import RemoteMounts.Declaration.Document
import RemoteMounts.Declaration.File
import RemoteMounts.Dialogue
import RemoteMounts.Dialogue.Concurrent
import RemoteMounts.Double
import RemoteMounts.Files
import RemoteMounts.Invalid
import RemoteMounts.Json.Basic
import RemoteMounts.Json.Literal
import RemoteMounts.Json.Parser
import RemoteMounts.Json.Printer
import RemoteMounts.Json.Real
import RemoteMounts.Json.RoundTrip
import RemoteMounts.Json5.Literal
import RemoteMounts.Json5.Parser
import RemoteMounts.Keyed
import RemoteMounts.Main
import RemoteMounts.Mount.Failure
import RemoteMounts.Mount.Name
import RemoteMounts.Mount.Point
import RemoteMounts.Mount.Request
import RemoteMounts.Mount.Script
import RemoteMounts.Mount.Storage
import RemoteMounts.Mount.Workflow
import RemoteMounts.Once
import RemoteMounts.Outside
import RemoteMounts.Path
import RemoteMounts.Proofs.Cluster.Acquisition
import RemoteMounts.Proofs.Cluster.Fitness
import RemoteMounts.Proofs.Cluster.Intervals
import RemoteMounts.Proofs.Cluster.Pacing
import RemoteMounts.Proofs.Cluster.Rediscovery
import RemoteMounts.Proofs.Cluster.Waits
import RemoteMounts.Proofs.CommandLine.Loading
import RemoteMounts.Proofs.CommandLine.Reports
import RemoteMounts.Proofs.Credential.Grammar
import RemoteMounts.Proofs.Credential.Placeholders
import RemoteMounts.Proofs.Declaration.Acceptance
import RemoteMounts.Proofs.Declaration.Override
import RemoteMounts.Proofs.Declaration.Padding
import RemoteMounts.Proofs.Declaration.RoundTrip
import RemoteMounts.Proofs.Dialogue.Relaying
import RemoteMounts.Proofs.Dialogue.Transcript
import RemoteMounts.Proofs.Json.Kept
import RemoteMounts.Proofs.Json.OneLine
import RemoteMounts.Proofs.Mount.Arguments
import RemoteMounts.Proofs.Mount.Credentials
import RemoteMounts.Proofs.Mount.Embedding
import RemoteMounts.Proofs.Mount.FurtherSettings
import RemoteMounts.Proofs.Mount.Lasting
import RemoteMounts.Proofs.Mount.Names
import RemoteMounts.Proofs.Mount.Points
import RemoteMounts.Proofs.Mount.Registrations
import RemoteMounts.Proofs.Mount.Stages
import RemoteMounts.Proofs.Once.Errands
import RemoteMounts.Proofs.Once.Scenes
import RemoteMounts.Proofs.Once.Turns
import RemoteMounts.Proofs.Simulated.Acquiring
import RemoteMounts.Proofs.Simulated.Board
import RemoteMounts.Proofs.Simulated.Changes
import RemoteMounts.Proofs.Simulated.Deeds
import RemoteMounts.Proofs.Simulated.Mounting
import RemoteMounts.Proofs.Simulated.Phases
import RemoteMounts.Proofs.Simulated.Reached
import RemoteMounts.Proofs.Text.Lines
import RemoteMounts.Proofs.Workspace.Addresses
import RemoteMounts.Proofs.Workspace.Echo
import RemoteMounts.Proofs.Workspace.Failures
import RemoteMounts.Proofs.Workspace.Mail
import RemoteMounts.Proofs.Workspace.Queries
import RemoteMounts.Proofs.Workspace.Scripts
import RemoteMounts.Proofs.Workspace.Timing
import RemoteMounts.Proofs.Workspace.Wording
import RemoteMounts.Record
import RemoteMounts.Scribe
import RemoteMounts.Settings.Basic
import RemoteMounts.Settings.Document
import RemoteMounts.Settings.File
import RemoteMounts.Settings.Load
import RemoteMounts.Settings.Variable
import RemoteMounts.Simulated.Clusters
import RemoteMounts.Simulated.FileTree
import RemoteMounts.Simulated.Mounts
import RemoteMounts.Simulated.Prompter
import RemoteMounts.Simulated.Stage
import RemoteMounts.Text.Blank
import RemoteMounts.Text.Cut
import RemoteMounts.Text.Hidden
import RemoteMounts.Text.Letter
import RemoteMounts.Text.Number
import RemoteMounts.Text.Quoted
import RemoteMounts.Time
import RemoteMounts.Toml.Parser
import RemoteMounts.Toml.Scalar
import RemoteMounts.Toml.Tables
import RemoteMounts.Toml.Text
import RemoteMounts.Workspace.Answer
import RemoteMounts.Workspace.Client
import RemoteMounts.Workspace.Clusters
import RemoteMounts.Workspace.Console
import RemoteMounts.Workspace.Fault
import RemoteMounts.Workspace.Form
import RemoteMounts.Workspace.Remote
import RemoteMounts.Workspace.Wire
import RemoteMounts.Yaml.Cursor
import RemoteMounts.Yaml.Document
import RemoteMounts.Yaml.Node
import RemoteMounts.Yaml.Scalar
import RemoteMounts.Yaml.Token
