import GuestRuntime.Path

/-!
Everything that can go wrong. A fault is its cause; `message` words it. Faults of the caller's code
carry the code as it was given.
-/

namespace GuestRuntime

/-- How a process ended. -/
inductive ExitStatus
  | exited (code : Nat)
  | signalled (signal : Nat)
  deriving DecidableEq, Repr

namespace ExitStatus

/-- Names of the signals, from the first. -/
def signalNames : List String :=
  ["SIGHUP", "SIGINT", "SIGQUIT", "SIGILL", "SIGTRAP", "SIGABRT", "SIGBUS", "SIGFPE", "SIGKILL",
    "SIGUSR1", "SIGSEGV", "SIGUSR2", "SIGPIPE", "SIGALRM", "SIGTERM", "SIGSTKFLT", "SIGCHLD",
    "SIGCONT", "SIGSTOP", "SIGTSTP", "SIGTTIN", "SIGTTOU", "SIGURG", "SIGXCPU", "SIGXFSZ",
    "SIGVTALRM", "SIGPROF", "SIGWINCH", "SIGIO", "SIGPWR", "SIGSYS"]

def success : ExitStatus → Bool
  | exited code => code == 0
  | signalled _ => false

def message : ExitStatus → String
  | exited code => "exit status: " ++ toString code
  | signalled n =>
    "signal: " ++ toString n ++
      match signalNames[n - 1]? with
      | some name => " (" ++ name ++ ")"
      | none => ""

end ExitStatus

/-- Why a guest cannot even be looked for. -/
inductive Misconfiguration
  /-- The installation could not be asked for its home. -/
  | queryImpossible (why : String)
  /-- It was asked and failed. -/
  | queryFailed (status : ExitStatus)
  /-- It was asked and named none. -/
  | noHomePrinted
  /-- A startup argument holds a zero. -/
  | zeroInArgument (position : Nat)
  | other (text : String)
  deriving DecidableEq, Repr

def Misconfiguration.message : Misconfiguration → String
  | queryImpossible why => "could not run 'R RHOME': " ++ why
  | queryFailed status => "'R RHOME' exited with " ++ status.message
  | noHomePrinted => "'R RHOME' did not print an installation home"
  | zeroInArgument i =>
    "invalid startup argument: nul byte found in provided data at position: " ++ toString i
  | other text => text

/-- Uses of a guest that its protocol forbids. -/
inductive Violation
  | restart
  | stopForeign
  | stopBeforeStart
  | stopTwice
  | notRunning
  | reconfigure
  /-- An evaluation changed the depth of the root stack. -/
  | imbalance (before after : Nat)
  | other (text : String)
  deriving DecidableEq, Repr

def Violation.message : Violation → String
  | restart => "the runtime cannot be restarted after shutdown"
  | stopForeign => "cannot stop a runtime owned by another embedder"
  | stopBeforeStart => "stop before start"
  | stopTwice => "runtime already stopped"
  | notRunning => "runtime is not running"
  | reconfigure => "cannot reconfigure a started runtime"
  | imbalance before after =>
    "protect stack imbalance (" ++ toString before ++ " -> " ++ toString after ++ ")"
  | other text => text

inductive Fault
  | misconfigured (cause : Misconfiguration)
  | unsupportedPlatform (os : String)
  | load (path : Path) (reason : String)
  | missingSymbol (path : Path) (name : String)
  | parse (code : String)
  | runtime (message : String) (code : String)
  | violation (cause : Violation)
  deriving DecidableEq, Repr

namespace Fault

def message : Fault → String
  | misconfigured cause => "configuration error: " ++ cause.message
  | unsupportedPlatform os => "unsupported platform '" ++ os ++ "'"
  | load path reason => "could not load '" ++ path.display ++ "': " ++ reason
  | missingSymbol path name =>
    "required symbol '" ++ name ++ "' missing from '" ++ path.display ++ "'"
  | parse code => "failed to parse: " ++ code
  | runtime message code => message ++ " at " ++ code
  | violation cause => "protocol violation: " ++ cause.message

/-- Faults after which the guest cannot be used. -/
def isFatal : Fault → Bool
  | violation _ | load _ _ | missingSymbol _ _ => true
  | _ => false

end Fault
end GuestRuntime
