import GuestRuntime.Guest.Entry
import GuestRuntime.Text.Terminated

/-!
A scripted library: it has the interface of a guest library and answers by a script. Parses and
evaluations take the next prepared reply, or a default; every call is kept in order. Objects have
the address at which they were made: 1 is the environment, 2 the empty value, and the objects made
since follow.
-/

namespace GuestRuntime.Scripted

/-- What an object holds. -/
inductive Contents
  | none
  | chars (text : Bytes)
  | strings (elements : List Bytes)
  | bytes (elements : Bytes)
  | reals (elements : List Double)
  | integers (elements : List Int)
  deriving Repr

structure Thing where
  kind : Kind
  /-- The length it claims. -/
  length : Int
  contents : Contents := .none
  /-- Its text, or its elements' text, is a null pointer. -/
  textless : Bool := false
  deriving Repr

/-- What a parse will do: its status, how many expressions it finds, how many roots it leaks. -/
structure ParseReply where
  status : Int := 1
  count : Int := 1
  leak : Int := 0
  deriving Repr

/-- What a callback slot is called with during an evaluation. -/
inductive Outward
  | write (bytes : Option Bytes) (length : Int) (kind : Int)
  | message (bytes : Option Bytes)
  | cleanUp
  | processEvents
  | busy
  deriving Repr

/-- What an evaluation will do: the callbacks it makes, then its failure or its value. -/
structure EvalReply where
  failure : Int := 0
  value : Thing := ⟨0, 0, .none, false⟩
  outward : List Outward := []
  deriving Repr

/-- Who gets console text. -/
inductive WriteSlot
  | vacant
  | foreign
  | host
  deriving DecidableEq, Repr

/-- One call a library received. -/
inductive Received
  /-- The arguments handed over, and how many that is said to be. -/
  | boot (count : Int) (arguments : List Bytes)
  | setUpMainLoop (write : WriteSlot) (plain messages cleanUp events busy unlimited : Bool)
  | allocVector (kind : Kind) (length : Int) (made : Obj)
  | protect (x : Obj)
  | unprotect (count : Int)
  | makeChars (text : Bytes) (encoding : Nat) (made : Obj)
  | setString (v : Obj) (i : Int) (chars : Obj)
  | parse (text : Obj) (limit : Int) (source result : Obj)
  | length (x : Obj)
  | element (v : Obj) (i : Int) (made : Obj)
  | foreignWrite (length kind : Int)
  | tryEval (expr env result : Obj)
  | kindOf (x : Obj)
  | stringElement (v : Obj) (i : Int) (made : Obj)
  | chars (x : Obj)
  | bytes (x : Obj)
  | integers (x : Obj)
  | logicals (x : Obj)
  | reals (x : Obj)
  | isMissing
  | runLast
  | runFinalizers
  | killDevices
  | cleanTempDir
  | collect
  | finish (fatal : Bool)
  deriving DecidableEq, Repr

/-- The environment's address, and the empty value's. -/
def theEnv : Obj := ⟨1⟩

def theNil : Obj := ⟨2⟩

/-- An object's name. -/
def nameOf (x : Obj) : String :=
  match x.address with
  | 0 => "null"
  | 1 => "env"
  | 2 => "nil"
  | n + 3 => "#" ++ toString (n + 1)

def flag (b : Bool) : String := if b then "1" else "0"

/-- A call with its arguments, as the trace shows it. -/
def shownCall (name : String) (args : List String) : String :=
  name ++ "(" ++ ",".intercalate args ++ ")"

/-- A call and what it made or found. -/
def shownResult (call : String) (x : Obj) : String := call ++ "=" ++ nameOf x

def Received.line : Received → String
  | boot count args =>
    shownCall "Rf_initialize_R" (toString count :: (args.take count.toNat).map hexOfBytes)
  | setUpMainLoop write plain messages cleanUp events busy unlimited =>
    "setup_Rmainloop() ex=" ++ flag (write != .vacant) ++ " plain=" ++ flag plain ++ " show=" ++
      flag messages ++ " cleanup=" ++ flag cleanUp ++ " events=" ++ flag events ++ " busy=" ++
      flag busy ++ " unlimited=" ++ flag unlimited
  | allocVector kind n made =>
    shownResult (shownCall "Rf_allocVector" [toString kind, toString n]) made
  | protect x => shownCall "Rf_protect" [nameOf x]
  | unprotect count => shownCall "Rf_unprotect" [toString count]
  | makeChars text encoding made =>
    shownResult (shownCall "Rf_mkCharCE" [hexOfBytes text, toString encoding]) made
  | setString v i c => shownCall "SET_STRING_ELT" [nameOf v, toString i, nameOf c]
  | parse text limit source result =>
    shownResult (shownCall "R_ParseVector" [nameOf text, toString limit, nameOf source]) result
  | length x => shownCall "Rf_xlength" [nameOf x]
  | element v i made => shownResult (shownCall "VECTOR_ELT" [nameOf v, toString i]) made
  | foreignWrite n kind => shownCall "foreign_write" [toString n, toString kind]
  | tryEval expr env result =>
    shownResult (shownCall "R_tryEval" [nameOf expr, nameOf env]) result
  | kindOf x => shownCall "TYPEOF" [nameOf x]
  | stringElement v i made => shownResult (shownCall "STRING_ELT" [nameOf v, toString i]) made
  | chars x => shownCall "R_CHAR" [nameOf x]
  | bytes x => shownCall "RAW" [nameOf x]
  | integers x => shownCall "INTEGER" [nameOf x]
  | logicals x => shownCall "LOGICAL" [nameOf x]
  | reals x => shownCall "REAL" [nameOf x]
  | isMissing => shownCall "R_IsNA" []
  | runLast => shownCall "R_dot_Last" []
  | runFinalizers => shownCall "R_RunExitFinalizers" []
  | killDevices => shownCall "Rf_KillAllDevices" []
  | cleanTempDir => shownCall "R_CleanTempDir" []
  | collect => shownCall "R_gc" []
  | finish fatal => shownCall "Rf_endEmbeddedR" [flag fatal]

/-- The variables of a loaded library, its script, and the calls it received. -/
structure Image where
  globalEnv : Obj := Obj.null
  nilValue : Obj := Obj.null
  write : WriteSlot := .vacant
  plain : Bool := false
  messages : Bool := false
  cleanUp : Bool := false
  events : Bool := false
  busy : Bool := false
  /-- Whether the stack limit is the greatest there is. -/
  unlimited : Bool := false
  /-- The depth counter. -/
  top : Int := 0
  things : Array Thing := #[]
  parses : List ParseReply := []
  evals : List EvalReply := []
  bootStatus : Int := 0
  trace : Array Received := #[]
  deriving Inhabited

namespace Image

/-- A library that others have started (bit 2) or wired (bit 1) before. -/
def prepared (preinit : Nat) (bootStatus top : Int) : Image :=
  { globalEnv := if preinit / 2 % 2 = 1 then theEnv else Obj.null
    nilValue := if preinit / 2 % 2 = 1 then theNil else Obj.null
    write := if preinit % 2 = 1 then .foreign else .vacant
    bootStatus, top }

def receive (m : Image) (r : Received) : Image := { m with trace := m.trace.push r }

/-- The object at an address; the three that were not made are empty. -/
def thing (m : Image) (x : Obj) : Thing :=
  if x = theEnv then ⟨Kind.environment, 0, .none, false⟩
  else if x.address < 3 then ⟨Kind.nil, 0, .none, false⟩
  else (m.things[x.address - 3]?).getD ⟨Kind.nil, 0, .none, false⟩

def make (m : Image) (t : Thing) : Obj × Image :=
  (⟨m.things.size + 3⟩, { m with things := m.things.push t })

/-- The text of a character scalar. -/
def textOf (t : Thing) : Option Bytes :=
  if t.textless then none
  else
    match t.contents with
    | .chars b => some (Terminated.upToNul b)
    | _ => some []

/-- The element of a string vector as a character scalar. -/
def elementOf (t : Thing) (i : Int) : Thing :=
  let text :=
    match t.contents with
    | .strings es => (es[i.toNat]?).getD []
    | _ => []
  ⟨Kind.chars, text.length, .chars text, t.textless⟩

/-- One callback during an evaluation: what the host gets, and the library after it. -/
def outward (m : Image) : Outward → List Callback × Image
  | .write b n k =>
    match m.write with
    | .vacant => ([], m)
    | .foreign => ([], m.receive (.foreignWrite n k))
    | .host => ([.write b n k], m)
  | .message b => (if m.messages then [.message b] else [], m)
  | .cleanUp => (if m.cleanUp then [.cleanUp] else [], m)
  | .processEvents => (if m.events then [.processEvents] else [], m)
  | .busy => (if m.busy then [.busy] else [], m)

/-- Callbacks in order. -/
def outwards (m : Image) : List Outward → List Callback × Image
  | [] => ([], m)
  | o :: r =>
    let (c, m) := m.outward o
    let (cs, m) := m.outwards r
    (c ++ cs, m)

/-- Starts the library with so many arguments. -/
def boot (m : Image) (count : Int) (arguments : List Bytes) : Int × Image :=
  (m.bootStatus,
    { m.receive (.boot count arguments) with
      globalEnv := theEnv, nilValue := theNil, plain := true })

def setUpMainLoop (m : Image) : Image :=
  m.receive (.setUpMainLoop m.write m.plain m.messages m.cleanUp m.events m.busy m.unlimited)

def allocVector (m : Image) (kind : Kind) (length : Int) : Obj × Image :=
  let (x, m) := m.make ⟨kind, length, .none, false⟩
  (x, m.receive (.allocVector kind length x))

def protect (m : Image) (x : Obj) : Image := { m with top := m.top + 1 }.receive (.protect x)

def unprotect (m : Image) (n : Int) : Image := { m with top := m.top - n }.receive (.unprotect n)

def makeChars (m : Image) (text : Bytes) (encoding : Nat) : Obj × Image :=
  let (x, m) := m.make ⟨Kind.chars, text.length, .chars text, false⟩
  (x, m.receive (.makeChars text encoding x))

def setString (m : Image) (v : Obj) (i : Int) (chars : Obj) : Image :=
  m.receive (.setString v i chars)

/-- Takes the next parse reply; only a good status finds expressions. -/
def parse (m : Image) (text : Obj) (limit : Int) (source : Obj) : (Int × Obj) × Image :=
  let r := m.parses.headD {}
  let m := { m with parses := m.parses.tail, top := m.top + r.leak }
  if r.status = parsedOk then
    let (x, m) := m.make ⟨Kind.expressions, r.count, .none, false⟩
    ((r.status, x), m.receive (.parse text limit source x))
  else ((r.status, theNil), m.receive (.parse text limit source theNil))

def length (m : Image) (x : Obj) : Int × Image := ((m.thing x).length, m.receive (.length x))

def element (m : Image) (v : Obj) (i : Int) : Obj × Image :=
  let (x, m) := m.make ⟨Kind.language, 1, .none, false⟩
  (x, m.receive (.element v i x))

/-- Takes the next evaluation reply; without one it gives the empty value. -/
def tryEval (m : Image) (expr env : Obj) (failed : Int) : (Int × Obj) × List Callback × Image :=
  match m.evals with
  | [] => ((failed, theNil), [], m.receive (.tryEval expr env theNil))
  | r :: rest =>
    let (cs, m) := { m with evals := rest }.outwards r.outward
    if r.failure ≠ 0 then ((r.failure, Obj.null), cs, m.receive (.tryEval expr env Obj.null))
    else
      let (x, m) := m.make r.value
      ((failed, x), cs, m.receive (.tryEval expr env x))

def kindOf (m : Image) (x : Obj) : Kind × Image := ((m.thing x).kind, m.receive (.kindOf x))

def stringElement (m : Image) (v : Obj) (i : Int) : Obj × Image :=
  let (x, m) := m.make (elementOf (m.thing v) i)
  (x, m.receive (.stringElement v i x))

def chars (m : Image) (x : Obj) : Option Bytes × Image :=
  (textOf (m.thing x), m.receive (.chars x))

def bytes (m : Image) (x : Obj) : Bytes × Image :=
  (match (m.thing x).contents with
    | .bytes b => b
    | _ => [], m.receive (.bytes x))

def integers (m : Image) (x : Obj) : List Int × Image :=
  (match (m.thing x).contents with
    | .integers l => l
    | _ => [], m.receive (.integers x))

def logicals (m : Image) (x : Obj) : List Int × Image :=
  (match (m.thing x).contents with
    | .integers l => l
    | _ => [], m.receive (.logicals x))

def reals (m : Image) (x : Obj) : List Double × Image :=
  (match (m.thing x).contents with
    | .reals l => l
    | _ => [], m.receive (.reals x))

end Image
end GuestRuntime.Scripted
