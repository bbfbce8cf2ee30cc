import GuestRuntime.Guest.Evaluate

/-!
Sessions. A session owns one guest for the life of the process, and there is no way back:

        uninitialized ──start──▶ running ──stop──▶ shut down
              ▲  │                  ▲ │
              └──┘ start fails      └─┘ start, evaluate

A start that finds the guest already running in this process adopts it; what somebody else started
is never stopped here. Evaluating starts a session that has not been started.
-/

namespace GuestRuntime

/-- Whether the session started its guest or found it running. -/
inductive Ownership
  | owned
  | adopted
  deriving DecidableEq, Repr

/-- What identifies a running session. -/
structure Handle where
  serial : Nat
  ownership : Ownership
  deriving DecidableEq, Repr

inductive Lifecycle (ρ : Type)
  | uninitialized
  | running (guest : ρ) (handle : Handle)
  | shutDown

/-- Where guests come from: settings, and a way to open one that may fail. Opening does not start
the guest. -/
class Source (φ : Type) (ρ σ : outParam Type) where
  settings : φ → Settings
  openGuest : φ → World σ → Except Fault ρ × φ × World σ

/-- A source, the life of the guest it gave, and the world both are in. -/
structure Session (φ ρ σ : Type) where
  source : φ
  lifecycle : Lifecycle ρ := .uninitialized
  world : World σ

/-- The stages of a life, without the guest. -/
inductive State
  | uninitialized
  | running
  | shutDown
  deriving DecidableEq, Repr

def Lifecycle.state {ρ : Type} : Lifecycle ρ → State
  | uninitialized => .uninitialized
  | running _ _ => .running
  | shutDown => .shutDown

namespace Dialogue

/-- Takes the guest as it is if something has started it, else starts it. -/
def bringUp (arguments : List Bytes) : Dialogue Ownership := do
  if ← call .isInitialized then
    remark .adopted
    return .adopted
  else
    let status ← call (.boot arguments)
    if status ≠ 0 then
      remark (.bootStatus status)
    call .disableStackCheck
    call .installCallbacks
    call .setUpMainLoop
    remark .booted
    return .owned

/-- The six steps that end a guest. -/
def tearDown (fatal : Bool) : Dialogue Unit := do
  call .runLast
  call .runFinalizers
  call .killDevices
  call .cleanTempDir
  call .collect
  call (.finish fatal)

end Dialogue

namespace Session

variable {φ ρ σ α : Type}

/-- What an operation of a session gives: an answer, or the panic of its guest. -/
abbrev Result (φ ρ σ α : Type) := Except Panic α × Session φ ρ σ

def state (s : Session φ ρ σ) : State := s.lifecycle.state

def handle? (s : Session φ ρ σ) : Option Handle :=
  match s.lifecycle with
  | .running _ h => some h
  | _ => none

def guest? (s : Session φ ρ σ) : Option ρ :=
  match s.lifecycle with
  | .running g _ => some g
  | _ => none

def note (s : Session φ ρ σ) (n : Note) : Session φ ρ σ :=
  { s with world := { s.world with host := s.world.host.note n } }

/-- A dialogue with a guest of this session. -/
def converse [Guest ρ σ] (s : Session φ ρ σ) (g : ρ) (d : Dialogue α) : Result φ ρ σ α :=
  let (r, w) := d.run g s.world
  (r, { s with world := w })

/-- Marks a session as running, with the next serial number. -/
def enter (s : Session φ ρ σ) (g : ρ) (o : Ownership) : Handle × Session φ ρ σ :=
  let h : Handle := ⟨s.world.host.nextSerial, o⟩
  let p := { s.world.host with nextSerial := s.world.host.nextSerial + 1 }
  (h, { s with lifecycle := .running g h, world := { s.world with host := p } })

/-- Opens the guest and starts or adopts it. A running session answers with its handle; a fault
leaves the session as it was. -/
def start [Guest ρ σ] [Source φ ρ σ] (s : Session φ ρ σ) : Result φ ρ σ (Except Fault Handle) :=
  match s.lifecycle with
  | .running _ h => (.ok (.ok h), s)
  | .shutDown => (.ok (.error (.violation .restart)), s)
  | .uninitialized =>
    match Terminated.ofTexts (Source.settings s.source).arguments with
    | .error i => (.ok (.error (.misconfigured (.zeroInArgument i))), s)
    | .ok arguments =>
      match Source.openGuest s.source s.world with
      | (.error f, source, world) => (.ok (.error f), { s with source, world })
      | (.ok g, source, world) =>
        match ({ s with source, world } : Session φ ρ σ).converse g (.bringUp arguments) with
        | (.error p, s) => (.error p, s)
        | (.ok o, s) =>
          let (h, s) := s.enter g o
          (.ok (.ok h), s)

/-- Ends the guest, once, if this session started it. -/
def stop [Guest ρ σ] (s : Session φ ρ σ) (fatal : Bool) : Result φ ρ σ (Except Fault Unit) :=
  match s.lifecycle with
  | .uninitialized => (.ok (.error (.violation .stopBeforeStart)), s)
  | .shutDown => (.ok (.error (.violation .stopTwice)), s.note .stoppedTwice)
  | .running _ ⟨_, .adopted⟩ => (.ok (.error (.violation .stopForeign)), s)
  | .running g ⟨_, .owned⟩ =>
    match s.converse g (.tearDown fatal) with
    | (.error p, s) => (.error p, s)
    | (.ok (), s) => (.ok (.ok ()), { s with lifecycle := .shutDown }.note (.shutDown fatal))

/-- Evaluates the first expression of a code, in the global environment if none is given. -/
def evaluate [Guest ρ σ] [Source φ ρ σ] (s : Session φ ρ σ) (code : String) (env : Option Obj) :
    Result φ ρ σ (Except Fault HostValue) :=
  match s.start with
  | (.error p, s) => (.error p, s)
  | (.ok (.error f), s) => (.ok (.error f), s)
  | (.ok (.ok _), s) =>
    match s.lifecycle with
    | .running g _ => s.converse g (.evaluate code env)
    | _ => (.ok (.error (.violation .notRunning)), s)

/-- The captured console text of an operation, beside its answer. -/
def captured (op : Session φ ρ σ → Result φ ρ σ α) (s : Session φ ρ σ) :
    String × Result φ ρ σ α :=
  let withOutput (s : Session φ ρ σ) (o : Output) : Session φ ρ σ :=
    { s with world := { s.world with host := { s.world.host with output := o } } }
  let (before, o) := s.world.host.output.openCapture
  let (r, s) := op (withOutput s o)
  let (held, o) := s.world.host.output.closeCapture before
  (Utf8.decodeLossy held, r, withOutput s o)

end Session
end GuestRuntime
