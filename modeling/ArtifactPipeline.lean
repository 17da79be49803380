import ArtifactPipeline.Action
import ArtifactPipeline.Catalogue
import ArtifactPipeline.CommandLine
import ArtifactPipeline.CommandStage
import ArtifactPipeline.Config.Context
import ArtifactPipeline.Config.Merge
import ArtifactPipeline.Config.Override
import ArtifactPipeline.Config.Parse
import ArtifactPipeline.Config.Redaction
import ArtifactPipeline.Config.Render
import ArtifactPipeline.Config.Value
import ArtifactPipeline.Conversion
import ArtifactPipeline.Decimal.Floating
import ArtifactPipeline.Decimal.Rounded
import ArtifactPipeline.Decimal.Shortest
import ArtifactPipeline.Digest.Checksum
import ArtifactPipeline.Digest.Md5
import ArtifactPipeline.Digest.Sha
import ArtifactPipeline.Duration
import ArtifactPipeline.Emulation.Settings
import ArtifactPipeline.Emulation.Stage
import ArtifactPipeline.Ending
import ArtifactPipeline.Failure
import ArtifactPipeline.Files.Contents
import ArtifactPipeline.Files.Fault
import ArtifactPipeline.Files.Path
import ArtifactPipeline.Files.Permission
import ArtifactPipeline.Files.Processes
import ArtifactPipeline.Files.System
import ArtifactPipeline.Host
import ArtifactPipeline.Journal
import ArtifactPipeline.Kind
import ArtifactPipeline.Main
import ArtifactPipeline.Program.Arguments
import ArtifactPipeline.Program.Run
import ArtifactPipeline.Proofs.Catalogue.Registration
import ArtifactPipeline.Proofs.Catalogue.SideEffects
import ArtifactPipeline.Proofs.Catalogue.Stages
import ArtifactPipeline.Proofs.CommandStage.Run
import ArtifactPipeline.Proofs.CommandStage.Words
import ArtifactPipeline.Proofs.Config.DottedKeys
import ArtifactPipeline.Proofs.Config.Keys
import ArtifactPipeline.Proofs.Config.Layers
import ArtifactPipeline.Proofs.Config.OverrideValue
import ArtifactPipeline.Proofs.Config.Overrides
import ArtifactPipeline.Proofs.Config.Redaction
import ArtifactPipeline.Proofs.Conversion.Content
import ArtifactPipeline.Proofs.Emulation.Calls
import ArtifactPipeline.Proofs.Emulation.Cancellation
import ArtifactPipeline.Proofs.Emulation.Causes
import ArtifactPipeline.Proofs.Emulation.Course
import ArtifactPipeline.Proofs.Emulation.Invariant
import ArtifactPipeline.Proofs.Emulation.Leftovers
import ArtifactPipeline.Proofs.Emulation.Phase
import ArtifactPipeline.Proofs.Emulation.Plan
import ArtifactPipeline.Proofs.Emulation.Port
import ArtifactPipeline.Proofs.Emulation.PortSetting
import ArtifactPipeline.Proofs.Emulation.Protocol
import ArtifactPipeline.Proofs.Emulation.Release
import ArtifactPipeline.Proofs.Emulation.Residue
import ArtifactPipeline.Proofs.Emulation.Workspace
import ArtifactPipeline.Proofs.Except
import ArtifactPipeline.Proofs.Files.Directory
import ArtifactPipeline.Proofs.Files.Growth
import ArtifactPipeline.Proofs.Files.Names
import ArtifactPipeline.Proofs.Files.Output
import ArtifactPipeline.Proofs.Linear.Scripted
import ArtifactPipeline.Proofs.Linear.Visits
import ArtifactPipeline.Proofs.Program.Delivery
import ArtifactPipeline.Proofs.Registry.Makers
import ArtifactPipeline.Proofs.Registry.Passage
import ArtifactPipeline.Proofs.Registry.Path
import ArtifactPipeline.Proofs.Remote.Changes
import ArtifactPipeline.Proofs.Remote.FakeHost
import ArtifactPipeline.Proofs.Remote.FakeSession
import ArtifactPipeline.Proofs.Remote.Following
import ArtifactPipeline.Proofs.Remote.Interruption
import ArtifactPipeline.Proofs.Remote.Invariant
import ArtifactPipeline.Proofs.Remote.Master
import ArtifactPipeline.Proofs.Remote.Plan
import ArtifactPipeline.Proofs.Remote.Record
import ArtifactPipeline.Proofs.Remote.Session
import ArtifactPipeline.Proofs.Remote.Starts
import ArtifactPipeline.Proofs.Remote.Workspaces
import ArtifactPipeline.Proofs.Route.Search
import ArtifactPipeline.Proofs.Script.Apply
import ArtifactPipeline.Proofs.Script.Deferred
import ArtifactPipeline.Proofs.Script.Noninterference
import ArtifactPipeline.Proofs.Script.Rejection
import ArtifactPipeline.Proofs.Script.Round
import ArtifactPipeline.Proofs.Script.Table
import ArtifactPipeline.Proofs.Shell.Literals
import ArtifactPipeline.Proofs.Shell.SimpleCommand
import ArtifactPipeline.Proofs.Shell.Tokens
import ArtifactPipeline.Proofs.Stage.Run
import ArtifactPipeline.Proofs.Step.Call
import ArtifactPipeline.Proofs.Step.Visits
import ArtifactPipeline.Proofs.Text.Reader
import ArtifactPipeline.Proofs.Text.Utf8
import ArtifactPipeline.Proofs.Text.Words
import ArtifactPipeline.Proofs.Toml.Document
import ArtifactPipeline.Proofs.Toml.Drafts
import ArtifactPipeline.Proofs.Toml.Readers
import ArtifactPipeline.Registry
import ArtifactPipeline.Remote.Backend
import ArtifactPipeline.Remote.FakeHost
import ArtifactPipeline.Remote.Playback
import ArtifactPipeline.Remote.Session
import ArtifactPipeline.Remote.Ssh
import ArtifactPipeline.Remote.Target
import ArtifactPipeline.Route
import ArtifactPipeline.Script
import ArtifactPipeline.Shell.Arithmetic
import ArtifactPipeline.Shell.Batches
import ArtifactPipeline.Shell.Builtin
import ArtifactPipeline.Shell.Connection
import ArtifactPipeline.Shell.Editing.Course
import ArtifactPipeline.Shell.Editing.Reader
import ArtifactPipeline.Shell.Editing.Script
import ArtifactPipeline.Shell.Expansion
import ArtifactPipeline.Shell.Fields
import ArtifactPipeline.Shell.Format
import ArtifactPipeline.Shell.Interpreter
import ArtifactPipeline.Shell.Launch
import ArtifactPipeline.Shell.Lexer
import ArtifactPipeline.Shell.Machine
import ArtifactPipeline.Shell.Octets
import ArtifactPipeline.Shell.Options
import ArtifactPipeline.Shell.Parser
import ArtifactPipeline.Shell.Pattern
import ArtifactPipeline.Shell.Program
import ArtifactPipeline.Shell.Quoting
import ArtifactPipeline.Shell.Regular.Expression
import ArtifactPipeline.Shell.Regular.Reader
import ArtifactPipeline.Shell.Runner
import ArtifactPipeline.Shell.Search
import ArtifactPipeline.Shell.Setting
import ArtifactPipeline.Shell.Signal
import ArtifactPipeline.Shell.SignalNames
import ArtifactPipeline.Shell.State
import ArtifactPipeline.Shell.Subshell
import ArtifactPipeline.Shell.Surroundings
import ArtifactPipeline.Shell.Syntax
import ArtifactPipeline.Shell.Task
import ArtifactPipeline.Shell.Test
import ArtifactPipeline.Shell.Utility.Amount
import ArtifactPipeline.Shell.Utility.Attributes
import ArtifactPipeline.Shell.Utility.Blocks
import ArtifactPipeline.Shell.Utility.Checksums
import ArtifactPipeline.Shell.Utility.Compare
import ArtifactPipeline.Shell.Utility.Contents
import ArtifactPipeline.Shell.Utility.Count
import ArtifactPipeline.Shell.Utility.Difference
import ArtifactPipeline.Shell.Utility.Digits
import ArtifactPipeline.Shell.Utility.Directories
import ArtifactPipeline.Shell.Utility.Dump
import ArtifactPipeline.Shell.Utility.Editing
import ArtifactPipeline.Shell.Utility.Evaluation
import ArtifactPipeline.Shell.Utility.Formatted
import ArtifactPipeline.Shell.Utility.Identity
import ArtifactPipeline.Shell.Utility.Judgement
import ArtifactPipeline.Shell.Utility.Layout
import ArtifactPipeline.Shell.Utility.Lines
import ArtifactPipeline.Shell.Utility.Links
import ArtifactPipeline.Shell.Utility.Listing
import ArtifactPipeline.Shell.Utility.Matching
import ArtifactPipeline.Shell.Utility.Numbers
import ArtifactPipeline.Shell.Utility.Pauses
import ArtifactPipeline.Shell.Utility.Rows
import ArtifactPipeline.Shell.Utility.Sets
import ArtifactPipeline.Shell.Utility.Sort
import ArtifactPipeline.Shell.Utility.Table
import ArtifactPipeline.Shell.Utility.Transfer
import ArtifactPipeline.Shell.Variables
import ArtifactPipeline.Source
import ArtifactPipeline.Stage
import ArtifactPipeline.Step
import ArtifactPipeline.Stream
import ArtifactPipeline.Text.Blank
import ArtifactPipeline.Text.Lines
import ArtifactPipeline.Text.Printable
import ArtifactPipeline.Text.Quoted
import ArtifactPipeline.Text.Reader
import ArtifactPipeline.Text.Search
import ArtifactPipeline.Text.Utf8
import ArtifactPipeline.Toml.Document
import ArtifactPipeline.Toml.Moment
import ArtifactPipeline.Toml.Number
import ArtifactPipeline.Toml.Table
import ArtifactPipeline.Toml.Text
import ArtifactPipeline.Toml.Value
import ArtifactPipeline.Word
import ArtifactPipeline.Proofs.Config.Positions
import ArtifactPipeline.Proofs.Remote.History
import ArtifactPipeline.Proofs.Remote.Store
import ArtifactPipeline.Proofs.Step.Access
