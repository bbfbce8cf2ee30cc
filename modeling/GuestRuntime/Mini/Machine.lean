import GuestRuntime.Mini.Eval
import GuestRuntime.Mini.Grammar
import GuestRuntime.Number.Short
import GuestRuntime.Session

/-!
The mini guest: a guest that lives wholly in memory. Its heap only grows, an object's address being
its index and one; its root stack is real; it keeps a record of every step of its life. A call that
panics leaves it as it was, but for what an evaluation has assigned and printed by then.
-/

namespace GuestRuntime.Mini

/-- Steps of being started. -/
inductive StartStep
  | boot
  | disableStackCheck
  | installCallbacks
  | setUpMainLoop
  deriving DecidableEq, Repr

def StartStep.name : StartStep → String
  | boot => "initialize"
  | disableStackCheck => "disable_stack_check"
  | installCallbacks => "install_callbacks"
  | setUpMainLoop => "setup_main_loop"

/-- Steps of being ended. -/
inductive EndStep
  | runLast
  | runFinalizers
  | killDevices
  | cleanTempDir
  | collect
  | finish
  deriving DecidableEq, Repr

def EndStep.name : EndStep → String
  | runLast => "dot_last"
  | runFinalizers => "exit_finalizers"
  | killDevices => "kill_all_devices"
  | cleanTempDir => "clean_temp_dir"
  | collect => "gc"
  | finish => "end_embedded"

structure Machine where
  heap : Array Value := #[.env, .nil]
  /-- Newest first. -/
  roots : List Obj := []
  unprotects : Nat := 0
  globals : Globals := []
  lastError : String := ""
  mode : MessageMode := .last
  /-- Every parse leaves its result rooted. -/
  leaky : Bool := false
  opens : Nat := 0
  initialized : Bool := false
  boots : Nat := 0
  arguments : List String := []
  /-- Whether callbacks are installed, and how often they were. -/
  wired : Bool := false
  wirings : Nat := 0
  mainLoops : Nat := 0
  startup : List StartStep := []
  teardown : List EndStep := []
  ended : Option Bool := none
  deriving Inhabited

namespace Machine

def globalEnv : Obj := ⟨1⟩

def nil : Obj := ⟨2⟩

/-- The object at an address. -/
def object? (m : Machine) (x : Obj) : Option Value :=
  if x.address = 0 then none else m.heap[x.address - 1]?

/-- A new object. -/
def alloc (m : Machine) (v : Value) : Obj × Machine :=
  (⟨m.heap.size + 1⟩, { m with heap := m.heap.push v })

/-- What one call gives. -/
abbrev Step (α : Type) := Machine → Reply Machine α

def answer {α : Type} (a : α) (m : Machine) (cs : List Callback := []) : Reply Machine α :=
  ⟨.ok a, m, cs⟩

def panic {α : Type} (p : Panic) (m : Machine) : Reply Machine α := ⟨.error p, m, []⟩

/-- Looks at an object, which must exist. -/
def withObject {α : Type} (x : Obj) (f : Value → Step α) : Step α := fun m =>
  match m.object? x with
  | some v => f v m
  | none => panic (.dangling x) m

/-- The element at an index. -/
def elementAt {α β : Type} (l : List α) (i : Int) (f : α → Step β) : Step β := fun m =>
  match if i < 0 then none else l[i.toNat]? with
  | some a => f a m
  | none => panic .outOfBounds m

/-- A new object for what a call found. -/
def answerNew (v : Value) : Step Obj := fun m =>
  let (x, m) := m.alloc v
  answer x m

/-- A step of being started. -/
def starting (m : Machine) (s : StartStep) : Machine := { m with startup := m.startup ++ [s] }

/-- A step of being ended. -/
def ending (m : Machine) (s : EndStep) : Machine := { m with teardown := m.teardown ++ [s] }

/-- Text for the console, if there is one; its length is counted in 32 bits. -/
def printing (m : Machine) (kind : Int) (text : String) : List Callback :=
  let b := Utf8.encode text
  if m.wired then [.write (some b) (shortened b.length) kind] else []

def setString (v : Obj) (i : Int) (text : Bytes) : Step Unit := fun m =>
  match m.object? v with
  | some (.strings es) =>
    if 0 ≤ i ∧ i < es.length then
      answer () { m with heap := m.heap.set! (v.address - 1) (.strings (es.set i.toNat text)) }
    else panic .outOfBounds m
  | _ => panic (.wrongKind "SET_STRING_ELT" "string vector") m

/-- The source text of a string vector: its elements as lines. -/
def sourceText (es : List Bytes) : List Char :=
  ['\n'].intercalate (es.map Utf8.decodeChars)

/-- The parse status of a failure. -/
def statusOf : Failure → Int
  | .incomplete => 2
  | .error => 3

def parseStrings (es : List Bytes) : Step (Int × Obj) := fun m =>
  match parse (sourceText es) with
  | .ok exprs =>
    let (x, m) := m.alloc (.exprs exprs)
    answer (parsedOk, x) (if m.leaky then { m with roots := x :: m.roots } else m)
  | .error w => answer (statusOf w, nil) m

/-- What a failed evaluation says. -/
def errorText (e : EvalError) : String := "Error: " ++ e.message ++ "\n"

/-- The evaluation of an expression in an environment: the outcome, and what it leaves. -/
def outcomeIn (m : Machine) (env : Obj) (e : Expr) : Except EvalError Value × Scratch :=
  let s : Scratch := ⟨m.globals, m.lastError, m.mode, []⟩
  if env = globalEnv then (eval e).run s else (.error .notEnvironment, s)

/-- What an evaluation that came to a failure answers, `m` being what it leaves: the failure is
printed, kept as the last message, and flagged. If it is no failure of the code's, it is a panic. -/
def failing (m : Machine) (e : EvalError) (cs : List Callback) : Reply Machine (Int × Obj) :=
  match e.panic? with
  | some p => ⟨.error p, m, cs⟩
  | none =>
    answer (1, nil) { m with lastError := errorText e } (cs ++ m.printing 1 (errorText e))

/-- Evaluates an expression; its value is a new object. -/
def tryEval (e : Expr) (env : Obj) : Step (Int × Obj) := fun m =>
  match m.outcomeIn env e with
  | (.ok v, s) =>
    let cs := s.printed.flatMap (m.printing 0)
    let (x, m) := { m with globals := s.globals }.alloc v
    answer (0, x) m cs
  | (.error e, s) =>
    failing { m with globals := s.globals } e (s.printed.flatMap (m.printing 0))

/-- All entry points. -/
def call : (e : Entry) → Step e.Answer
  | .isInitialized => fun m => answer m.initialized m
  | .boot arguments => fun m =>
    if m.initialized then panic .bootedTwice m
    else
      let arguments := arguments.map Utf8.decodeLossy
      answer 0 ({ m with initialized := true, boots := m.boots + 1, arguments }.starting .boot)
  | .installCallbacks => fun m =>
    answer () ({ m with wired := true, wirings := m.wirings + 1 }.starting .installCallbacks)
  | .disableStackCheck => fun m => answer () (m.starting .disableStackCheck)
  | .setUpMainLoop => fun m =>
    answer () ({ m with mainLoops := m.mainLoops + 1 }.starting .setUpMainLoop)
  | .allocStrings n =>
    if n.toNat * stringSize ≤ memoryTop then answerNew (.strings (List.replicate n.toNat []))
    else panic .capacityOverflow
  | .protect x => fun m => answer x { m with roots := x :: m.roots }
  | .unprotect n => fun m =>
    if n.toNat ≤ m.roots.length then
      answer () { m with roots := m.roots.drop n.toNat, unprotects := m.unprotects + 1 }
    else panic (.tooManyUnprotected m.roots.length) m
  | .setString v i text => setString v i text
  | .parse text => withObject text fun
    | .strings es => parseStrings es
    | _ => panic .parseOfNoText
  | .length x => withObject x fun v m => answer (v.length : Int) m
  | .element v i => withObject v fun
    | .exprs es => elementAt es i fun e => answerNew (.lang e)
    | _ => panic (.wrongKind "VECTOR_ELT" "expression vector")
  | .globalEnv => fun m => answer globalEnv m
  | .tryEval expr env flag => withObject expr fun
    | .lang e => tryEval e env
    | v => fun m =>
      let (x, m) := m.alloc v
      answer (flag, x) m
  | .kindOf x => withObject x fun v m => answer v.kind m
  | .stringElement v i => withObject v fun
    | .strings es => elementAt es i fun b => answerNew (.chars b)
    | _ => panic (.wrongKind "STRING_ELT" "string vector")
  | .chars x => withObject x fun
    | .chars b => fun m => answer (some b) m
    | _ => panic (.wrongKind "R_CHAR" "CHARSXP")
  | .bytes x => withObject x fun
    | .bytes b => fun m => answer b m
    | _ => panic (.wrongKind "RAW" "raw vector")
  | .integers x => withObject x fun
    | .ints l => fun m => answer l m
    | _ => panic (.wrongKind "INTEGER" "integer vector")
  | .logicals x => withObject x fun
    | .lgls l => fun m => answer l m
    | _ => panic (.wrongKind "LOGICAL" "logical vector")
  | .reals x => withObject x fun
    | .reals l => fun m => answer l m
    | _ => panic (.wrongKind "REAL" "real vector")
  | .isMissing _ => fun m => answer false m
  | .depth => fun m => answer (some m.roots.length) m
  | .runLast => fun m => answer () (m.ending .runLast)
  | .runFinalizers => fun m => answer () (m.ending .runFinalizers)
  | .killDevices => fun m => answer () (m.ending .killDevices)
  | .cleanTempDir => fun m => answer () (m.ending .cleanTempDir)
  | .collect => fun m => answer () (m.ending .collect)
  | .finish fatal => fun m =>
    if m.ended.isSome then panic .finishedTwice m
    else answer () ({ m with ended := some fatal }.ending .finish)

end Machine

/-- The one mini guest of a memory. -/
inductive TheGuest
  | it
  deriving DecidableEq, Repr

instance : Guest TheGuest Machine where
  call _ := Machine.call

/-- Gives the mini guest, after so many failures. -/
structure Provider where
  settings : Settings := ({} : Settings).withHome (.ofString "/sim/R")
  failures : Nat := 0

namespace Provider

/-- What a failing provider says. -/
def loadFault : Fault := .load (.ofString "/sim/R/lib/libR.so") "simulated load failure"

def openGuest (p : Provider) (w : World Machine) :
    Except Fault TheGuest × Provider × World Machine :=
  match p.failures with
  | n + 1 => (.error loadFault, { p with failures := n }, w)
  | 0 => (.ok .it, p, { w with memory := { w.memory with opens := w.memory.opens + 1 } })

instance : Source Provider TheGuest Machine where
  settings := Provider.settings
  openGuest := openGuest

end Provider

/-- A session with a mini guest of its own. -/
abbrev MiniSession := Session Provider TheGuest Machine

/-- A session that has not been started; the guest may be running already. -/
def newSession (p : Provider) (running : Bool) (host : Host) : MiniSession :=
  { source := p, world := ⟨{ initialized := running }, host⟩ }

end GuestRuntime.Mini
