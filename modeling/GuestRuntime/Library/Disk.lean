import GuestRuntime.Library.Scripted
import GuestRuntime.Library.Symbol

/-!
Libraries on disk. Directories in the working directory may be installations: each then has its
library in `lib`, which lacks some symbols. A path is followed part by part, so one library can be
reached by several paths, and it is loaded once. Of the rest of the disk it is only known which
paths lead to which libraries.
-/

namespace GuestRuntime.Library

/-- What a directory in the working directory is. -/
inductive Directory
  /-- An installation, and the symbols its library lacks. -/
  | installation (lacking : List String)
  /-- A directory whose library, if there is one, cannot be loaded. -/
  | other
  deriving DecidableEq, Repr

structure Disk where
  directory : String → Option Directory
  /-- The libraries outside the working directory, and the symbols they lack. -/
  elsewhere : Path → Option (String × List String) := fun _ => none
  /-- Images of the libraries used so far, by directory. -/
  images : List (String × Scripted.Image) := []

namespace Disk

/-- The parts of a relative path between its slashes; an absolute path and one with a zero have
none. -/
def parts? (p : Path) : Option (List String) :=
  if p.bytes.head? = some Path.slash ∨ p.bytes.contains 0 then none
  else some (((p.bytes.splitOn Path.slash).map Utf8.decodeLossy).filter (· ≠ ""))

/-- One part further, from the parts entered so far, the innermost first; a library is a file and
has nothing below it. -/
def enter (d : Disk) (entered : List String) (part : String) : Option (List String) :=
  if 3 ≤ entered.length then none
  else if part = "." then some entered
  else if part = ".." then
    match entered with
    | [] => none
    | _ :: r => some r
  else
    match entered with
    | [] => if (d.directory part).isSome then some [part] else none
    | [name] => if part = "lib" then some [part, name] else none
    | lib :: name => if part = "libR.so" then some (part :: lib :: name) else none

/-- The directory whose library a path leads to, and what that library lacks. -/
def here? (d : Disk) (p : Path) : Option (String × List String) := do
  match ← (← parts? p).foldlM d.enter [] with
  | [_, _, name] =>
    match ← d.directory name with
    | .installation lacking => some (name, lacking)
    | .other => none
  | _ => none

/-- The library a path leads to, and what it lacks; a path with a zero leads nowhere. -/
def find? (d : Disk) (p : Path) : Option (String × List String) :=
  if p.bytes.contains 0 then none
  else
    match d.here? p with
    | some library => some library
    | none => d.elsewhere p

def image (d : Disk) (name : String) : Scripted.Image := (d.images.lookup name).getD {}

def setImage (d : Disk) (name : String) (m : Scripted.Image) : Disk :=
  { d with images := (name, m) :: d.images.filter fun i => i.1 != name }

end Disk
end GuestRuntime.Library
