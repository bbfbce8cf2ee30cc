import GuestRuntime.Fleet
import GuestRuntime.Library.Catalogue
import GuestRuntime.Mini.Bench
import GuestRuntime.Shared
import GuestRuntime.Text.Utf8.Lemmas
import GuestRuntime.Proofs.Syntax.Reading
import GuestRuntime.Proofs.Syntax.Derivation
import GuestRuntime.Proofs.Syntax.Program
import GuestRuntime.Proofs.Syntax.Writing
import GuestRuntime.Proofs.Dialogue.Ends
import GuestRuntime.Proofs.Mini.Calls
import GuestRuntime.Proofs.Mini.Marshal
import GuestRuntime.Proofs.Mini.Evaluation
import GuestRuntime.Proofs.Mini.Diagnostic
import GuestRuntime.Proofs.Mini.Answer
import GuestRuntime.Proofs.Mini.Operations
import GuestRuntime.Proofs.Mini.RootStack
import GuestRuntime.Proofs.Mini.FirstExpression
import GuestRuntime.Proofs.Mini.Runs
import GuestRuntime.Proofs.Mini.Lifecycle
import GuestRuntime.Proofs.Dialogue.Abides
import GuestRuntime.Proofs.Dialogue.Rooting
import GuestRuntime.Proofs.Session.Rooted
import GuestRuntime.Proofs.Mini.Plain
import GuestRuntime.Proofs.Mini.Operand
import GuestRuntime.Proofs.Mini.Globals
import GuestRuntime.Proofs.Mini.Explained
import GuestRuntime.Proofs.Dialogue.Lifeless
import GuestRuntime.Proofs.Session.Life
import GuestRuntime.Proofs.Process.Life
import GuestRuntime.Proofs.Library.Opening
import GuestRuntime.Proofs.Process.Exit
import GuestRuntime.Proofs.Library.Image
import GuestRuntime.Proofs.Library.Protocol
import GuestRuntime.Proofs.Console.Routing
import GuestRuntime.Proofs.Mini.Channel
import GuestRuntime.Proofs.Fleet.Interleaving
import GuestRuntime.Proofs.Checked.Running
import GuestRuntime.Proofs.Syntax.Appending
import GuestRuntime.Proofs.Syntax.Completion
import GuestRuntime.Proofs.Syntax.Lines
import GuestRuntime.Proofs.Syntax.Finality
import GuestRuntime.Proofs.Dialogue.Balance
import GuestRuntime.Proofs.Library.Veiled
import GuestRuntime.Proofs.Mini.RoundTrip
import GuestRuntime.Proofs.Mini.Integral
import GuestRuntime.Proofs.Number.Shown
import GuestRuntime.Proofs.Mini.Speech
import GuestRuntime.Proofs.Bench.Heap
import GuestRuntime.Proofs.Unwinding.Requests
import GuestRuntime.Proofs.Bench.Scopes
import GuestRuntime.Proofs.Console.Nesting
import GuestRuntime.Proofs.Mini.Reads
import GuestRuntime.Proofs.Session.Arguments
import GuestRuntime.Proofs.Process.Configured
import GuestRuntime.Proofs.Home.Printed
import GuestRuntime.Proofs.Home.Discovered
import GuestRuntime.Proofs.Mini.Throughout
import GuestRuntime.Proofs.Cursor.Source
