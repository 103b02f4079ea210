import JobShell.Child.Notice
import JobShell.Child.Parent
import JobShell.Child.Reaper
import JobShell.Child.Status
import JobShell.Child.Table
import JobShell.Command.Basic
import JobShell.Command.Builtin
import JobShell.Command.Reader
import JobShell.Descriptor.Table
import JobShell.File.Edit
import JobShell.File.Path
import JobShell.File.Tree
import JobShell.Log.Level
import JobShell.Log.LineWriter
import JobShell.Log.Router
import JobShell.Machine.Basic
import JobShell.Machine.Process
import JobShell.Machine.Run
import JobShell.Machine.Session
import JobShell.Main
import JobShell.Program.Basic
import JobShell.Program.Catalogue
import JobShell.Program.Condition
import JobShell.Program.Environment
import JobShell.Program.Escape
import JobShell.Program.FileName
import JobShell.Program.Files
import JobShell.Program.Image
import JobShell.Program.Options
import JobShell.Program.Texts
import JobShell.Program.Transfer
import JobShell.Redirect.Binding
import JobShell.Script.Builtin
import JobShell.Script.Condition
import JobShell.Script.Expansion
import JobShell.Script.Frame
import JobShell.Script.Interpreter
import JobShell.Script.Invocation
import JobShell.Script.Reader
import JobShell.Script.Syntax
import JobShell.Script.Token
import JobShell.Shell.Error
import JobShell.Shell.Execute
import JobShell.Shell.Help
import JobShell.Shell.Input
import JobShell.Shell.LastStatus
import JobShell.Shell.Loop
import JobShell.Shell.Options
import JobShell.Signal.Basic
import JobShell.Signal.Disposition
import JobShell.Signal.Scopes
import JobShell.Signal.Set
import JobShell.Supervisor.Basic
import JobShell.Supervisor.Foreground
import JobShell.Supervisor.Launch
import JobShell.Supervisor.Services
import JobShell.Supervisor.Terminal
import JobShell.System.Arguments
import JobShell.System.Errno
import JobShell.System.Failure
import JobShell.System.Host
import JobShell.System.Pid
import JobShell.System.RawWrite
import JobShell.Text.Blank
import JobShell.Text.Bytes
import JobShell.Text.Decimal
import JobShell.Text.Lines
import JobShell.Text.Lossy
import JobShell.Text.Numeral
import JobShell.Text.Printable
import JobShell.Text.Quoted
import JobShell.Proofs.Text.Runs
import JobShell.Proofs.Command.Reading
import JobShell.Proofs.Command.RoundTrip
import JobShell.Proofs.Redirect.Install
import JobShell.Proofs.Child.Drain
import JobShell.Proofs.Supervisor.History
import JobShell.Proofs.Supervisor.Interleaving
import JobShell.Proofs.Supervisor.Custody
import JobShell.Proofs.Supervisor.Keeping
import JobShell.Proofs.Supervisor.Reporting
import JobShell.Proofs.Supervisor.Execution
import JobShell.Proofs.Command.Passes
import JobShell.Proofs.Command.Background
import JobShell.Proofs.Shell.Delivery
import JobShell.Proofs.Supervisor.Restoring
import JobShell.Proofs.Text.Encoding
import JobShell.Proofs.Shell.Session
import JobShell.Proofs.Shell.Reports
import JobShell.Proofs.Redirect.Rebinding
import JobShell.Proofs.Supervisor.Launching
import JobShell.Proofs.Shell.Invariants
import JobShell.Proofs.Supervisor.Interrupts
import JobShell.Proofs.Child.Conservation
import JobShell.Proofs.Child.Wording
import JobShell.Proofs.Child.Rounds
import JobShell.Proofs.Supervisor.Rejecting
import JobShell.Proofs.Supervisor.Confining
import JobShell.Proofs.Text.OneLine
import JobShell.Proofs.Supervisor.Errors
import JobShell.Proofs.Shell.Builtins
import JobShell.Proofs.Redirect.AllOrNothing
import JobShell.Proofs.Shell.Dispatch
import JobShell.Proofs.Child.Transcript
import JobShell.Proofs.System.Calls
import JobShell.Proofs.System.Writing
import JobShell.Proofs.System.Interruption
import JobShell.Proofs.Child.Looking
import JobShell.Proofs.Child.Decoding
import JobShell.Proofs.Child.Calls
import JobShell.Proofs.Supervisor.Unnoticed
import JobShell.Proofs.Signal.Masks
import JobShell.Proofs.Signal.Brackets
import JobShell.Proofs.Signal.Actions
import JobShell.Proofs.Signal.Scoping
import JobShell.Proofs.Log.Routing
import JobShell.Proofs.Shell.Options
import JobShell.Proofs.Child.Buffer
import JobShell.Proofs.Supervisor.Waiting
