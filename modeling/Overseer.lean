import Overseer.Console.Arguments
import Overseer.Console.Perform
import Overseer.Console.Request
import Overseer.Console.Terminal
import Overseer.Fault
import Overseer.FileTree
import Overseer.Home
import Overseer.Json.Decode
import Overseer.Json.Parser
import Overseer.Json.Printer
import Overseer.Json.Quoted
import Overseer.Json.Value
import Overseer.Launch.CommandLine
import Overseer.Launch.Environment
import Overseer.Launch.Payload
import Overseer.Log.ClearScreen
import Overseer.Log.Cursor
import Overseer.Main
import Overseer.Path
import Overseer.Port
import Overseer.Process.Control
import Overseer.Process.Signal
import Overseer.Process.Tree
import Overseer.Proofs.Console.Attempting
import Overseer.Proofs.Console.Configuring
import Overseer.Proofs.Console.Starting
import Overseer.Proofs.FileTree
import Overseer.Proofs.Json.RoundTrip
import Overseer.Proofs.Launch.CommandLine
import Overseer.Proofs.Launch.Payload
import Overseer.Proofs.Log.ClearScreen
import Overseer.Proofs.Log.Paging
import Overseer.Proofs.Log.Tailing
import Overseer.Proofs.Path
import Overseer.Proofs.Path.Spelling
import Overseer.Proofs.Port
import Overseer.Proofs.Process.Addressing
import Overseer.Proofs.Process.Descent
import Overseer.Proofs.Service.Adding
import Overseer.Proofs.Service.Choosing
import Overseer.Proofs.Service.Containment
import Overseer.Proofs.Service.Locating
import Overseer.Proofs.Service.Resolving
import Overseer.Proofs.Service.Setup
import Overseer.Proofs.Store.ActiveLaunch
import Overseer.Proofs.Store.History
import Overseer.Proofs.Store.LaunchEnd
import Overseer.Proofs.Store.LaunchTable
import Overseer.Proofs.Store.Marked
import Overseer.Proofs.Store.Operations
import Overseer.Proofs.Store.OutputTable
import Overseer.Proofs.Store.Retention
import Overseer.Proofs.Store.Waning
import Overseer.Proofs.Supervisor.Assigning
import Overseer.Proofs.Supervisor.Cast
import Overseer.Proofs.Supervisor.Cleaning
import Overseer.Proofs.Supervisor.Crowd
import Overseer.Proofs.Supervisor.Ending
import Overseer.Proofs.Supervisor.Exclusive
import Overseer.Proofs.Supervisor.Forcing
import Overseer.Proofs.Supervisor.Frame
import Overseer.Proofs.Supervisor.Journal
import Overseer.Proofs.Supervisor.Killing
import Overseer.Proofs.Supervisor.LastWords
import Overseer.Proofs.Supervisor.Launching
import Overseer.Proofs.Supervisor.Observed
import Overseer.Proofs.Supervisor.Picking
import Overseer.Proofs.Supervisor.Reporting
import Overseer.Proofs.Supervisor.Searching
import Overseer.Proofs.Supervisor.Stopping
import Overseer.Proofs.Supervisor.Sweeping
import Overseer.Proofs.Supervisor.Takeover
import Overseer.Proofs.Supervisor.Triple
import Overseer.Proofs.Supervisor.Turns
import Overseer.Proofs.Supervisor.Waiting
import Overseer.Proofs.Supervisor.Watching
import Overseer.Proofs.Text.Blank
import Overseer.Proofs.Text.Decimal
import Overseer.Proofs.Text.Pieces
import Overseer.Proofs.Wrapper.Children
import Overseer.Proofs.Wrapper.Chronicle
import Overseer.Proofs.Wrapper.ExitCode
import Overseer.Proofs.Wrapper.Keeping
import Overseer.Proofs.Wrapper.Outcome
import Overseer.Proofs.Wrapper.Output
import Overseer.Proofs.Wrapper.Passage
import Overseer.Proofs.Wrapper.Reader
import Overseer.Proofs.Wrapper.Remarks
import Overseer.Proofs.Wrapper.Turn
import Overseer.Record.Log
import Overseer.Record.Process
import Overseer.Rehearsal.Calls
import Overseer.Rehearsal.Interpreter.Basic
import Overseer.Rehearsal.Interpreter.Builtins
import Overseer.Rehearsal.Interpreter.Commands
import Overseer.Rehearsal.Interpreter.Jobs
import Overseer.Rehearsal.Interpreter.Launchers
import Overseer.Rehearsal.Interpreter.Listing
import Overseer.Rehearsal.Interpreter.Replies
import Overseer.Rehearsal.Interpreter.Step
import Overseer.Rehearsal.Octets
import Overseer.Rehearsal.Ports
import Overseer.Rehearsal.Processes
import Overseer.Rehearsal.Production
import Overseer.Rehearsal.Programs.Answers
import Overseer.Rehearsal.Programs.Basic
import Overseer.Rehearsal.Programs.Condition
import Overseer.Rehearsal.Programs.Dates
import Overseer.Rehearsal.Programs.Digest
import Overseer.Rehearsal.Programs.Dump
import Overseer.Rehearsal.Programs.Edit
import Overseer.Rehearsal.Programs.Files
import Overseer.Rehearsal.Programs.Lines
import Overseer.Rehearsal.Programs.Modes
import Overseer.Rehearsal.Programs.Options
import Overseer.Rehearsal.Programs.Order
import Overseer.Rehearsal.Programs.Perform
import Overseer.Rehearsal.Programs.Regex
import Overseer.Rehearsal.Scene
import Overseer.Rehearsal.Shell.Arithmetic
import Overseer.Rehearsal.Shell.Digits
import Overseer.Rehearsal.Shell.Escape
import Overseer.Rehearsal.Shell.Expansion
import Overseer.Rehearsal.Shell.Fields
import Overseer.Rehearsal.Shell.Format
import Overseer.Rehearsal.Shell.Fraction
import Overseer.Rehearsal.Shell.Lexer
import Overseer.Rehearsal.Shell.Parser
import Overseer.Rehearsal.Shell.Pattern
import Overseer.Rehearsal.Shell.Source
import Overseer.Rehearsal.Shell.Syntax
import Overseer.Rehearsal.Shell.Values
import Overseer.Rehearsal.Stage
import Overseer.Rehearsal.TreeTrial
import Overseer.Rehearsal.Turns
import Overseer.Report.Document
import Overseer.Report.Line
import Overseer.Report.Style
import Overseer.Report.Table
import Overseer.Service.Name
import Overseer.Service.Project
import Overseer.Service.Setup
import Overseer.Store.Basic
import Overseer.Store.Files
import Overseer.Store.Launches
import Overseer.Store.Output
import Overseer.Store.Ports
import Overseer.Store.Retention
import Overseer.Supervisor.Inspect
import Overseer.Supervisor.Liveness
import Overseer.Supervisor.Run
import Overseer.Supervisor.Stop
import Overseer.Supervisor.Wait
import Overseer.Supervisor.Watch
import Overseer.Supervisor.World
import Overseer.Text.Blank
import Overseer.Text.Decimal
import Overseer.Text.Pieces
import Overseer.Text.Utf8
import Overseer.Text.Width
import Overseer.Text.Width.Columns
import Overseer.Text.Width.Letters
import Overseer.Text.Width.Pictures
import Overseer.Time.Calendar
import Overseer.Word
import Overseer.Wrapper.Program
import Overseer.Wrapper.Reader
import Overseer.Wrapper.Run
import Overseer.Wrapper.State
import Overseer.Wrapper.Step
