import PluginBundle.Build.Builder
import PluginBundle.Build.Error
import PluginBundle.Build.Paths
import PluginBundle.Build.Session
import PluginBundle.Build.Stage
import PluginBundle.Bundler.Basic
import PluginBundle.Bundler.Command
import PluginBundle.CommandLine.Arguments
import PluginBundle.CommandLine.Execute
import PluginBundle.CommandLine.Help
import PluginBundle.CommandLine.Parse
import PluginBundle.CommandLine.Switch
import PluginBundle.Configuration.Basic
import PluginBundle.Configuration.Decoding
import PluginBundle.Configuration.Error
import PluginBundle.Configuration.Loading
import PluginBundle.Configuration.Steps
import PluginBundle.Configuration.Validation
import PluginBundle.Decimal.Layout
import PluginBundle.Decimal.Rounded
import PluginBundle.Decimal.Shortest
import PluginBundle.Duration
import PluginBundle.Files.Changes
import PluginBundle.Files.Disk
import PluginBundle.Files.IoError
import PluginBundle.Files.Path
import PluginBundle.Json.Fault
import PluginBundle.Json.Reader
import PluginBundle.Json.Text
import PluginBundle.Json.Value
import PluginBundle.Keyed
import PluginBundle.Log.Filter
import PluginBundle.Log.Line
import PluginBundle.Log.Record
import PluginBundle.Main
import PluginBundle.Process.Environment
import PluginBundle.Process.Executable
import PluginBundle.Process.ExitStatus
import PluginBundle.Process.Lookup
import PluginBundle.Process.Spawn
import PluginBundle.Regex.Basic
import PluginBundle.Regex.Fault
import PluginBundle.Regex.Posix
import PluginBundle.Regex.Reader
import PluginBundle.Script.Generate
import PluginBundle.Script.Name
import PluginBundle.Script.Program
import PluginBundle.Script.Render
import PluginBundle.Sha256
import PluginBundle.Shell.Arithmetic
import PluginBundle.Shell.Assign
import PluginBundle.Shell.Braces
import PluginBundle.Shell.Builtin
import PluginBundle.Shell.Builtin.Basic
import PluginBundle.Shell.Builtin.Input
import PluginBundle.Shell.Builtin.Process
import PluginBundle.Shell.Builtin.Variables
import PluginBundle.Shell.Call
import PluginBundle.Shell.Channel
import PluginBundle.Shell.Condition
import PluginBundle.Shell.Describe
import PluginBundle.Shell.Expand
import PluginBundle.Shell.Glob
import PluginBundle.Shell.Lookup
import PluginBundle.Shell.Pattern
import PluginBundle.Shell.Printing
import PluginBundle.Shell.Process
import PluginBundle.Shell.Programs
import PluginBundle.Shell.Reader.Basic
import PluginBundle.Shell.Reader.Commands
import PluginBundle.Shell.Reader.Words
import PluginBundle.Shell.Redirect
import PluginBundle.Shell.Run
import PluginBundle.Shell.Script
import PluginBundle.Shell.Signal
import PluginBundle.Shell.Start
import PluginBundle.Shell.State
import PluginBundle.Shell.Syntax
import PluginBundle.Shell.Test
import PluginBundle.Text.Blank
import PluginBundle.Text.Bytes
import PluginBundle.Text.CharacterClass
import PluginBundle.Text.CodeRanges
import PluginBundle.Text.Coloring
import PluginBundle.Text.ControlSequence
import PluginBundle.Text.Letter
import PluginBundle.Text.Lossy
import PluginBundle.Text.Printable
import PluginBundle.Text.Quoted
import PluginBundle.Toml.Moment
import PluginBundle.Toml.Reader
import PluginBundle.Toml.Recognize
import PluginBundle.Toml.Scalar
import PluginBundle.Toml.Section
import PluginBundle.Toml.Value
import PluginBundle.Tools.Basic
import PluginBundle.Tools.Calls
import PluginBundle.Tools.Edit
import PluginBundle.Tools.Edit.Command
import PluginBundle.Tools.Edit.Reader
import PluginBundle.Tools.Files
import PluginBundle.Tools.Find
import PluginBundle.Tools.Image
import PluginBundle.Tools.Lines
import PluginBundle.Tools.Order
import PluginBundle.Tools.Ranges
import PluginBundle.Tools.Search
import PluginBundle.Tools.Table
import PluginBundle.Tools.Translate
import PluginBundle.Tools.Values
import PluginBundle.Proofs.Build.Course
import PluginBundle.Proofs.Build.Effects
import PluginBundle.Proofs.Text.NameCharacters
import PluginBundle.Proofs.Configuration.Acceptance
import PluginBundle.Proofs.Script.Bindings
import PluginBundle.Proofs.Script.Execution
import PluginBundle.Proofs.Script.Initialization
import PluginBundle.Proofs.Json.Keys
import PluginBundle.Proofs.Configuration.Decoding
import PluginBundle.Proofs.Configuration.Values
import PluginBundle.Proofs.Build.Sessions
import PluginBundle.Proofs.Json.Lines
import PluginBundle.Proofs.Json.StringRules
import PluginBundle.Proofs.Json.Literals
import PluginBundle.Proofs.Json.RoundTrip
import PluginBundle.Proofs.Script.Encoding
import PluginBundle.Proofs.Configuration.Serialization
import PluginBundle.Proofs.Configuration.Saving
import PluginBundle.Proofs.Configuration.Faults
import PluginBundle.Proofs.Configuration.Collisions
import PluginBundle.Proofs.Configuration.Refusals
import PluginBundle.Proofs.Configuration.Steps
import PluginBundle.Proofs.Build.Stages
import PluginBundle.Proofs.Text.NameRole
import PluginBundle.Proofs.Script.LegalBindings
import PluginBundle.Proofs.Script.Scan
import PluginBundle.Proofs.Script.Separators
import PluginBundle.Proofs.Files.Directories
import PluginBundle.Proofs.Build.Placement
import PluginBundle.Proofs.CommandLine.Words
import PluginBundle.Proofs.CommandLine.BaseDirectory
import PluginBundle.Proofs.Build.Refusals
import PluginBundle.Proofs.Build.History
import PluginBundle.Proofs.Files.Joining
import PluginBundle.Proofs.Build.Locations
import PluginBundle.Proofs.Bundler.ProjectProgram
import PluginBundle.Proofs.Files.Contents
import PluginBundle.Proofs.Build.Recording
import PluginBundle.Proofs.CommandLine.Preview
import PluginBundle.Proofs.Build.Warnings
import PluginBundle.Proofs.Files.Places
import PluginBundle.Proofs.Build.LocalDisk
import PluginBundle.Proofs.CommandLine.Outcome
import PluginBundle.Proofs.Decimal.Doubles
import PluginBundle.Proofs.Decimal.ReadingBack
import PluginBundle.Proofs.Script.Numerals
import PluginBundle.Proofs.Script.Datum
import PluginBundle.Proofs.Script.Literals
import PluginBundle.Proofs.Script.Tables
import PluginBundle.Proofs.Script.PluginData
import PluginBundle.Proofs.Script.Styles
import PluginBundle.Proofs.Script.LiteralLines
import PluginBundle.Proofs.CommandLine.Selection
import PluginBundle.Proofs.Build.TimeLimits
import PluginBundle.Proofs.Toml.Translation
import PluginBundle.Proofs.Configuration.Documents
