import BuildLauncher.Checking.Readers
import BuildLauncher.CommandLine.Program
import BuildLauncher.Files.Changes
import BuildLauncher.Files.Resolve
import BuildLauncher.Launch.Service
import BuildLauncher.Log.Logging
import BuildLauncher.Main
import BuildLauncher.Number.Decimal
import BuildLauncher.Report.Format
import BuildLauncher.Settings.Assembly
import BuildLauncher.Text.CellWidth
import BuildLauncher.Text.LowerCase
import BuildLauncher.Text.ShellWords
import BuildLauncher.Text.Utf8
import BuildLauncher.Toml.Document
import BuildLauncher.Value.Json
import BuildLauncher.Value.JsonReader
import BuildLauncher.Value.Shown
import BuildLauncher.Proofs.Files.Directories
import BuildLauncher.Proofs.Files.Canonical
import BuildLauncher.Proofs.Launch.Operations
import BuildLauncher.Proofs.Launch.Processes
import BuildLauncher.Proofs.Launch.Courses
import BuildLauncher.Proofs.Launch.Pipeline
import BuildLauncher.Proofs.Launch.ErrorTable
import BuildLauncher.Proofs.Launch.Effects
import BuildLauncher.Proofs.Text.ShellWords
import BuildLauncher.Proofs.Launch.Agreement
import BuildLauncher.Proofs.Launch.Escapes
import BuildLauncher.Proofs.Settings.Precedence
import BuildLauncher.Proofs.Settings.Escapes
import BuildLauncher.Proofs.Settings.Spelling
import BuildLauncher.Proofs.CommandLine.Requests
import BuildLauncher.Proofs.Launch.Notices
import BuildLauncher.Proofs.Value.JsonText
import BuildLauncher.Proofs.Report.Emission
import BuildLauncher.Proofs.Report.Warnings
import BuildLauncher.Proofs.CommandLine.Payloads
import BuildLauncher.Proofs.Text.Widths
import BuildLauncher.Proofs.Text.Wrapping
import BuildLauncher.Proofs.Text.Styles
import BuildLauncher.Proofs.Report.Rendering
import BuildLauncher.Proofs.Launch.Outcomes
import BuildLauncher.Proofs.Files.Absolute
import BuildLauncher.Proofs.Settings.Directory
import BuildLauncher.Proofs.Launch.TwoRuns
import BuildLauncher.Proofs.Launch.Surroundings
import BuildLauncher.Proofs.Settings.Selection
import BuildLauncher.Proofs.Launch.Forwarding
import BuildLauncher.Proofs.CommandLine.Forwarding
import BuildLauncher.Proofs.Files.Held
import BuildLauncher.Proofs.Settings.Checkout
import BuildLauncher.Proofs.Files.Collapse
import BuildLauncher.Proofs.Launch.Containment
import BuildLauncher.Proofs.Launch.Starting
import BuildLauncher.Proofs.Report.ReadingBack
import BuildLauncher.Proofs.Report.MountTable
import BuildLauncher.Proofs.Report.Fields
import BuildLauncher.Proofs.Files.Settled
import BuildLauncher.Proofs.Settings.Resolution
import BuildLauncher.Proofs.Launch.BuildContext
import BuildLauncher.Proofs.Settings.Discovery
import BuildLauncher.Proofs.Launch.Foretelling
import BuildLauncher.Proofs.Settings.Respelling
import BuildLauncher.Proofs.Log.Replacing
import BuildLauncher.Proofs.Launch.CommandLines
import BuildLauncher.Proofs.Files.Ancestors
import BuildLauncher.Proofs.Settings.Levels
import BuildLauncher.Proofs.CommandLine.Help
