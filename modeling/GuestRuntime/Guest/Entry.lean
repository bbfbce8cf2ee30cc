import GuestRuntime.Guest.Object
import GuestRuntime.Home
import GuestRuntime.Number.Double

/-!
The entry points of a guest. A call is a value of `Entry`, its answer has the type `Entry.Answer`;
whoever answers every call over some memory is a `Guest`. A call may also write to the console
through the host's callbacks, and it may panic, which no guest of good conduct does.
-/

namespace GuestRuntime

/-- A call of a guest's. `parse` and `tryEval` answer a flag beside the object. -/
inductive Entry
  /-- Whether anything in this process has started the guest. -/
  | isInitialized
  | boot (arguments : List Bytes)
  | installCallbacks
  /-- The stack's limit is known for the starting thread only. -/
  | disableStackCheck
  | setUpMainLoop
  | allocStrings (length : Int)
  | protect (x : Obj)
  | unprotect (count : Int)
  | setString (v : Obj) (i : Int) (text : Bytes)
  | parse (text : Obj)
  | length (x : Obj)
  | element (v : Obj) (i : Int)
  | globalEnv
  /-- Evaluates with failures kept inside; `flag` is what the flag holds before. -/
  | tryEval (expr env : Obj) (flag : Int)
  | kindOf (x : Obj)
  | stringElement (v : Obj) (i : Int)
  | chars (x : Obj)
  | bytes (x : Obj)
  | integers (x : Obj)
  | logicals (x : Obj)
  | reals (x : Obj)
  /-- Whether a NaN is the missing value. -/
  | isMissing (x : Double)
  /-- The depth of the root stack, where a guest lets it be seen. -/
  | depth
  | runLast
  | runFinalizers
  | killDevices
  | cleanTempDir
  | collect
  | finish (fatal : Bool)
  deriving Repr

/-- The parse status of source text that was read to its end. -/
def parsedOk : Int := 1

abbrev Entry.Answer : Entry → Type
  | .isInitialized => Bool
  | .boot _ => Int
  | .allocStrings _ => Obj
  | .protect _ => Obj
  | .parse _ => Int × Obj
  | .length _ => Int
  | .element _ _ => Obj
  | .globalEnv => Obj
  | .tryEval _ _ _ => Int × Obj
  | .kindOf _ => Kind
  | .stringElement _ _ => Obj
  | .chars _ => Option Bytes
  | .bytes _ => Bytes
  | .integers _ => List Int
  | .logicals _ => List Int
  | .reals _ => List Double
  | .isMissing _ => Bool
  | .depth => Option Nat
  | _ => Unit

/-- Why a guest panicked. -/
inductive Panic
  | dangling (x : Obj)
  | outOfBounds
  /-- A call on an object of a kind it is not for. -/
  | wrongKind (call wanted : String)
  | tooManyUnprotected (held : Nat)
  | bootedTwice
  | finishedTwice
  | parseOfNoText
  /-- More elements than a piece of memory can have. -/
  | capacityOverflow
  /-- A count that outgrows its 32 bits. -/
  | addOverflow
  deriving DecidableEq, Repr

def Panic.message : Panic → String
  | dangling x => "dangling object " ++ x.shown
  | outOfBounds => "index out of bounds"
  | wrongKind call wanted => call ++ " on a non-" ++ wanted
  | tooManyUnprotected held => "unprotect(): only " ++ toString held ++ " protected items"
  | bootedTwice => "runtime initialized twice"
  | finishedTwice => "runtime ended twice"
  | parseOfNoText => "parse of a non-string vector"
  | capacityOverflow => "capacity overflow"
  | addOverflow => "attempt to add with overflow"

/-- What one call did: its answer or a panic, the memory after it, the callbacks it made. -/
structure Reply (σ α : Type) where
  outcome : Except Panic α
  memory : σ
  callbacks : List Callback := []

/-- A guest `ρ` over memory `σ`. -/
class Guest (ρ : Type) (σ : outParam Type) where
  call : ρ → (e : Entry) → σ → Reply σ e.Answer

/-- The process that hosts guests. -/
structure Host where
  output : Output
  /-- The variable `Settings.homeVariable`. -/
  home : Option Path
  query : HomeQuery
  /-- The number of the next session that starts. -/
  nextSerial : Nat := 1

namespace Host

def note (p : Host) (n : Note) : Host := { p with output := p.output.note n }

def callbacks (p : Host) (cs : List Callback) : Host :=
  { p with output := cs.foldl Output.callback p.output }

end Host

/-- A guest's memory in its process. -/
structure World (σ : Type) where
  memory : σ
  host : Host

variable {ρ σ : Type}

/-- One call, its callbacks handled. -/
def World.call [Guest ρ σ] (g : ρ) (e : Entry) (w : World σ) : Except Panic e.Answer × World σ :=
  let r := Guest.call g e w.memory
  (r.outcome, ⟨r.memory, w.host.callbacks r.callbacks⟩)

end GuestRuntime
