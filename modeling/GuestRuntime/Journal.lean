import GuestRuntime.Fault
import GuestRuntime.Guest.Object

/-!
The journal: what a host remarks on while it drives guests. A note is an event; `level` ranks it and
`text` words it.
-/

namespace GuestRuntime

inductive Level
  | debug
  | info
  | warn
  | error
  deriving DecidableEq, Repr

def Level.name : Level → String
  | debug => "DEBUG"
  | info => "INFO"
  | warn => "WARN"
  | error => "ERROR"

/-- Which call of the guest's a console failure belongs to. -/
inductive ConsoleCall
  | write
  | message
  deriving DecidableEq, Repr

def ConsoleCall.name : ConsoleCall → String
  | write => "write"
  | message => "message"

inductive Note
  | configuredHome (home : Path)
  | discoveredHome (home : Path)
  | depthUnknown
  | loaded (path : Path)
  | adopted
  | bootStatus (status : Int)
  | booted
  | shutDown (fatal : Bool)
  | stoppedTwice
  | evaluating (code : String)
  | extraExpressions (count : Int) (code : String)
  | imbalance (before after : Nat) (code : String)
  | messageNotText (value : HostValue)
  | messageUnavailable (fault : Fault)
  | consoleFailed (call : ConsoleCall) (why : String)
  | consolePanicked (call : ConsoleCall)
  | hookRefused
  | busyAtExit
  | exitStopFailed (fault : Fault)
  | exitStopPanicked
  deriving DecidableEq, Repr

namespace Note

def level : Note → Level
  | configuredHome _ | discoveredHome _ | depthUnknown | evaluating _ => .debug
  | loaded _ | booted | shutDown _ => .info
  | adopted | bootStatus _ | extraExpressions _ _ | messageNotText _ | messageUnavailable _
  | hookRefused | busyAtExit => .warn
  | stoppedTwice | imbalance _ _ _ | consoleFailed _ _ | consolePanicked _ | exitStopFailed _
  | exitStopPanicked => .error

def text : Note → String
  | configuredHome home => "using configured home " ++ home.display
  | discoveredHome home => "discovered home " ++ home.display
  | depthUnknown => "R_PPStackTop not exported; protect balance will not be verified"
  | loaded path => "loaded " ++ path.display
  | adopted => "runtime already initialized in this process; adopting it"
  | bootStatus status => "runtime initialization returned " ++ toString status
  | booted => "runtime initialized"
  | shutDown fatal => "runtime shut down (fatal: " ++ toString fatal ++ ")"
  | stoppedTwice => "runtime stopped twice"
  | evaluating code => "evaluating " ++ Text.quoted code
  | extraExpressions count code =>
    "only the first of " ++ toString count ++ " expressions is evaluated: " ++ Text.quoted code
  | imbalance before after code =>
    "protect stack went from " ++ toString before ++ " to " ++ toString after ++ " evaluating " ++
      Text.quoted code
  | messageNotText value => "error message came back as " ++ value.shown
  | messageUnavailable fault => "could not fetch error message: " ++ fault.message
  | consoleFailed call why => "console " ++ call.name ++ " failed: " ++ why
  | consolePanicked call => "console " ++ call.name ++ " panicked"
  | hookRefused => "could not register exit hook; call stop() before exiting"
  | busyAtExit => "interpreter busy at exit; skipping shutdown"
  | exitStopFailed fault => "shutdown at exit failed: " ++ fault.message
  | exitStopPanicked => "shutdown at exit panicked"

/-- A note as one line. -/
def line (n : Note) : String := n.level.name ++ " " ++ n.text

end Note
end GuestRuntime
