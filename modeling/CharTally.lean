import CharTally.Binary64
import CharTally.CommandLine
import CharTally.CommandLine.Limit
import CharTally.CommandLine.Page
import CharTally.CommandLine.Problem
import CharTally.CommandLine.Request
import CharTally.CommandLine.Switch
import CharTally.CommandLine.Token
import CharTally.Failure
import CharTally.Files
import CharTally.Files.FilePath
import CharTally.Instant
import CharTally.Json
import CharTally.Json.Fault
import CharTally.Json.Reader
import CharTally.Json.Writer
import CharTally.Ledger
import CharTally.Ledger.Image
import CharTally.Ledger.Store
import CharTally.Report
import CharTally.Run
import CharTally.ScanLog
import CharTally.Settings
import CharTally.Settings.Load
import CharTally.Settings.Problem
import CharTally.Stamp
import CharTally.Tape
import CharTally.Target
import CharTally.Text
import CharTally.Text.DecimalDigit
import CharTally.Text.Lines
import CharTally.Text.Numeral
import CharTally.Text.Printable
import CharTally.Text.Quoted
import CharTally.Text.Utf8
import CharTally.Window
import CharTally.Window.Form
import CharTally.Workspace
import CharTally.Main
import CharTally.Proofs.Files
import CharTally.Proofs.Ledger
import CharTally.Proofs.Ledger.Store
import CharTally.Proofs.Ledger.History
import CharTally.Proofs.Json.Writer
import CharTally.Proofs.Text.Lines
import CharTally.Proofs.Text.Utf8
import CharTally.Proofs.Json.Reader
import CharTally.Proofs.Json.RoundTrip
import CharTally.Proofs.ScanLog
import CharTally.Proofs.Run
import CharTally.Proofs.Ledger.Rows
import CharTally.Proofs.Run.Failure
import CharTally.Proofs.Run.Kept
import CharTally.Proofs.Run.Lead
import CharTally.Proofs.Json.Spelling
import CharTally.Proofs.Settings
import CharTally.Proofs.Settings.Crash
import CharTally.Proofs.Run.Crash
import CharTally.Proofs.CommandLine.Ending
import CharTally.Proofs.Run.Alike
import CharTally.Proofs.Files.Room
import CharTally.Proofs.Run.Trail
import CharTally.Proofs.Target
import CharTally.Proofs.Settings.Profile
import CharTally.Proofs.CommandLine.Arguments
import CharTally.Proofs.Run.Open
import CharTally.Proofs.CommandLine.Agreement
import CharTally.Proofs.Window.Literals
import CharTally.Proofs.Window.Agreement
import CharTally.Proofs.Settings.Written
import CharTally.Proofs.Settings.Overrides
import CharTally.Proofs.Settings.Spoilt
import CharTally.Proofs.Ledger.Migration
import CharTally.Proofs.CommandLine.Failure
import CharTally.Proofs.CommandLine.Count
import CharTally.Proofs.Stamp
import CharTally.Proofs.CommandLine.History
import CharTally.Proofs.Text.Digits
import CharTally.Proofs.Target.Reading
import CharTally.Proofs.Failure
import CharTally.Proofs.Window.Story
import CharTally.Proofs.Window.Log
import CharTally.Proofs.Window.ErrorWindow
import CharTally.Proofs.Window.Opening
import CharTally.Proofs.Tape.Places
import CharTally.Proofs.Json.Overlong
import CharTally.Proofs.Settings.Version
import CharTally.Proofs.Target.Grammar
import CharTally.Proofs.Text.Breaks
import CharTally.Proofs.Run.Listable
import CharTally.Proofs.CommandLine.Listing
import CharTally.Proofs.CommandLine.Spelling
import CharTally.Proofs.CommandLine.Placement
import CharTally.Proofs.CommandLine.Separator
import CharTally.Proofs.Json.Further
import CharTally.Proofs.ScanLog.Appending
import CharTally.Proofs.CommandLine.Limit
import CharTally.Proofs.Report
import CharTally.Proofs.Target.Description
