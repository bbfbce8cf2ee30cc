import GuestRuntime.Path

/-!
How to find a guest and with which arguments to start it. Settings are built from the default by
steps, and the arguments are the program name followed by the flags in the order they were added.
-/

namespace GuestRuntime

structure Settings where
  /-- The installation's home; without it the installation is asked. -/
  home : Option Path := none
  /-- The first argument. -/
  program : String := "rembed"
  /-- No prompt to save, no windows, nobody's profile. -/
  flags : List String := ["--quiet", "--vanilla", "--no-save", "--gui=none"]
  deriving DecidableEq, Repr

namespace Settings

/-- The variable that names the home, and that a guest reads to find its own files. -/
def homeVariable : String := "R_HOME"

/-- The default with the home that the environment names, unless that is empty. -/
def ofEnvironment (home : Option Path) : Settings :=
  { home := home.filter fun h => !h.bytes.isEmpty }

def withHome (s : Settings) (home : Path) : Settings := { s with home := some home }

def withProgram (s : Settings) (program : String) : Settings := { s with program }

def withFlag (s : Settings) (flag : String) : Settings := { s with flags := s.flags ++ [flag] }

/-- The arguments a guest is started with. -/
def arguments (s : Settings) : List String := s.program :: s.flags

/-- One step of building settings. -/
inductive Step
  | home (path : Path)
  | program (name : String)
  | flag (flag : String)
  | reset
  | fromEnvironment
  deriving Repr

def apply (environment : Option Path) (s : Settings) : Step → Settings
  | .home p => s.withHome p
  | .program n => s.withProgram n
  | .flag f => s.withFlag f
  | .reset => {}
  | .fromEnvironment => ofEnvironment environment

/-- The settings that the steps build from the default. -/
def build (environment : Option Path) (steps : List Step) : Settings :=
  steps.foldl (apply environment) {}

end Settings
end GuestRuntime
