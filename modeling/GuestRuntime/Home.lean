import GuestRuntime.Console.Output
import GuestRuntime.Settings
import GuestRuntime.Text.Blank

/-!
Finding an installation: its home and the library inside it. A configured home is taken as it is;
otherwise the installation is asked, and its home is the first line it prints that is neither blank
nor a warning.
-/

namespace GuestRuntime

/-- What asking the installation for its home does. -/
inductive HomeQuery
  /-- There is nobody to ask. -/
  | impossible (why : String)
  /-- It prints something and ends. -/
  | answered (printed : Bytes) (status : ExitStatus)
  deriving Repr

/-- There is no program to ask. -/
def HomeQuery.missing : HomeQuery := .impossible "No such file or directory (os error 2)"

namespace Home

def warning : List Char := "WARNING".toList

/-- Whether a line names a home. -/
def isHome (line : List Char) : Bool := !line.isEmpty && !warning.isPrefixOf line

/-- The first line that names a home, without the blanks around it. -/
def ofPrinted (printed : List Char) : Option (List Char) :=
  ((Text.lines printed).map Text.trim).find? isHome

def parse (printed : String) : Option Path :=
  (ofPrinted printed.toList).map fun h => ⟨Utf8.encodeChars h⟩

/-- The home an installation gives when it is asked. -/
def ask : HomeQuery → Except Fault Path
  | .impossible why => .error (.misconfigured (.queryImpossible why))
  | .answered printed status =>
    if status.success then
      match parse (Utf8.decodeLossy printed) with
      | some home => .ok home
      | none => .error (.misconfigured .noHomePrinted)
    else .error (.misconfigured (.queryFailed status))

/-- The home to use, and the note that says where it is from. -/
def resolve (s : Settings) (q : HomeQuery) : Except Fault (Path × Note) :=
  match s.home with
  | some home => .ok (home, .configuredHome home)
  | none => (ask q).map fun home => (home, .discoveredHome home)

/-- The library's file name on an operating system. -/
def libraryName (os : String) : Except Fault String :=
  if os = "linux" then .ok "libR.so"
  else if os = "macos" then .ok "libR.dylib"
  else .error (.unsupportedPlatform os)

/-- The operating system this library is written for. -/
def platform : String := "linux"

def libraryPath (home : Path) : Except Fault Path :=
  (libraryName platform).map fun name => (home.join (.ofString "lib")).join (.ofString name)

end Home
end GuestRuntime
