import GuestRuntime.Library.Disk
import GuestRuntime.Number.Short
import GuestRuntime.Session

/-!
Guests in libraries. Loading finds the library and looks up every symbol, so a library that is
loaded has them all; only the depth counter may be missing, and then the depth of the root stack is
not known. Every entry point is one call of the library's, or a look at one of its variables.
-/

namespace GuestRuntime

namespace Library

/-- A library in this process: where it was loaded from, which it is, whether it shows its depth
counter. -/
structure Loaded where
  path : Path
  name : String
  showsDepth : Bool
  deriving DecidableEq, Repr

/-- Loads the library at a path. -/
def load (path : Path) (w : World Disk) : Except Fault Loaded × World Disk :=
  match w.memory.find? path with
  | none => (.error (.load path ""), w)
  | some (name, lacking) =>
    let showsDepth := !lacking.contains depthSymbol
    let host := if showsDepth then w.host else w.host.note .depthUnknown
    match firstMissing? lacking with
    | some symbol => (.error (.missingSymbol path symbol), { w with host })
    | none => (.ok ⟨path, name, showsDepth⟩, { w with host := host.note (.loaded path) })

/-- The encoding a guest is told its text has. -/
def utf8Encoding : Nat := 1

/-- No limit on the expressions to parse. -/
def allExpressions : Int := -1

open Scripted in

/-- One entry point on a library's image: the answer, the callbacks, the image after. -/
def answer (l : Loaded) : (e : Entry) → Image → e.Answer × List Callback × Image
  | .isInitialized, m => (m.write != .vacant || m.globalEnv != Obj.null, [], m)
  | .boot arguments, m =>
    let (r, m) := m.boot (shortened arguments.length) arguments
    (r, [], m)
  | .installCallbacks, m =>
    ((), [], { m with write := .host, plain := false, messages := true, cleanUp := true,
                      events := true, busy := true })
  | .disableStackCheck, m => ((), [], { m with unlimited := true })
  | .setUpMainLoop, m => ((), [], m.setUpMainLoop)
  | .allocStrings n, m => let (x, m) := m.allocVector Kind.strings n; (x, [], m)
  | .protect x, m => (x, [], m.protect x)
  | .unprotect n, m => ((), [], m.unprotect n)
  | .setString v i text, m =>
    let (c, m) := m.makeChars text utf8Encoding
    ((), [], m.setString v i c)
  | .parse text, m => let (r, m) := m.parse text allExpressions m.nilValue; (r, [], m)
  | .length x, m => let (n, m) := m.length x; (n, [], m)
  | .element v i, m => let (x, m) := m.element v i; (x, [], m)
  | .globalEnv, m => (m.globalEnv, [], m)
  | .tryEval expr env failed, m => m.tryEval expr env failed
  | .kindOf x, m => let (k, m) := m.kindOf x; (k, [], m)
  | .stringElement v i, m => let (x, m) := m.stringElement v i; (x, [], m)
  | .chars x, m => let (b, m) := m.chars x; (b, [], m)
  | .bytes x, m => let (b, m) := m.bytes x; (b, [], m)
  | .integers x, m => let (v, m) := m.integers x; (v, [], m)
  | .logicals x, m => let (v, m) := m.logicals x; (v, [], m)
  | .reals x, m => let (v, m) := m.reals x; (v, [], m)
  | .isMissing x, m => (x.isMissing, [], m.receive .isMissing)
  | .depth, m => (if l.showsDepth then some m.top.toNat else none, [], m)
  | .runLast, m => ((), [], m.receive .runLast)
  | .runFinalizers, m => ((), [], m.receive .runFinalizers)
  | .killDevices, m => ((), [], m.receive .killDevices)
  | .cleanTempDir, m => ((), [], m.receive .cleanTempDir)
  | .collect, m => ((), [], m.receive .collect)
  | .finish fatal, m => ((), [], m.receive (.finish fatal))

instance : Guest Loaded Disk where
  call l e d :=
    let (a, callbacks, m) := answer l e (d.image l.name)
    ⟨.ok a, d.setImage l.name m, callbacks⟩

/-- Finds the installation that settings name, or the one that answers for itself. -/
structure Locator where
  settings : Settings
  deriving DecidableEq, Repr

namespace Locator

/-- Resolves the home, loads its library, and only then tells the guest where its home is. -/
def openGuest (l : Locator) (w : World Disk) : Except Fault Loaded × Locator × World Disk :=
  match Home.resolve l.settings w.host.query with
  | .error f => (.error f, l, w)
  | .ok (home, note) =>
    let w := { w with host := w.host.note note }
    match Home.libraryPath home with
    | .error f => (.error f, l, w)
    | .ok path =>
      match load path w with
      | (.error f, w) => (.error f, l, w)
      | (.ok g, w) => (.ok g, l, { w with host := { w.host with home := some home } })

instance : Source Locator Loaded Disk where
  settings := Locator.settings
  openGuest := openGuest

end Locator
end Library

/-- A session with a guest in a library. -/
abbrev LibrarySession := Session Library.Locator Library.Loaded Library.Disk

end GuestRuntime
