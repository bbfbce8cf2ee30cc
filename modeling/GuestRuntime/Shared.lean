import GuestRuntime.Library.Loaded

/-!
The session that a whole process shares. It comes into being at first use, with the environment's
settings, and can be configured anew until it has started. Once a start through `start` or
`evaluate` has found the session the owner of its guest, a hook at the process's end stops it:

        exit ──▶ hook registered? ──no──▶ nothing
                   │ yes
                   ▼
                 in use? ──yes──▶ only a note
                   │ no
                   ▼
                 running? ──yes──▶ stop

Whoever panics while holding the session leaves its lock poisoned; everybody after him takes the
session all the same, as he left it.
-/

namespace GuestRuntime

structure Shared (φ ρ σ : Type) where
  /-- The session's part, once there is one. -/
  session : Option (φ × Lifecycle ρ) := none
  /-- Whether somebody panicked while holding the session. -/
  poisoned : Bool := false
  /-- Whether registering the hook has been tried, which is done once. -/
  tried : Bool := false
  /-- How often the hook at the process's end is registered. -/
  hooks : Nat := 0
  /-- Whether the process takes no more hooks. -/
  full : Bool := false
  world : World σ

/-- Sources that are made of settings alone. -/
class Configurable (φ : Type) where
  ofSettings : Settings → φ

instance : Configurable Library.Locator where
  ofSettings := .mk

/-- The shared session of a process with guests in libraries. -/
abbrev SharedLibrary := Shared Library.Locator Library.Loaded Library.Disk

namespace Shared

variable {φ ρ σ α : Type}

section Lock

variable [Configurable φ]

/-- The session, made at first use. -/
def current (s : Shared φ ρ σ) : Session φ ρ σ :=
  match s.session with
  | some (source, lifecycle) => ⟨source, lifecycle, s.world⟩
  | none =>
    ⟨Configurable.ofSettings (.ofEnvironment s.world.host.home), .uninitialized, s.world⟩

/-- What taking the lock gives: the session, as an error if the lock is poisoned. -/
def lock (s : Shared φ ρ σ) : Except (Session φ ρ σ) (Session φ ρ σ) :=
  if s.poisoned then .error s.current else .ok s.current

/-- The session that the lock gives, poisoned or not. -/
def acquire (s : Shared φ ρ σ) : Session φ ρ σ :=
  match s.lock with
  | .ok t => t
  | .error t => t

/-- Puts the session back. -/
def release (s : Shared φ ρ σ) (t : Session φ ρ σ) : Shared φ ρ σ :=
  { s with session := some (t.source, t.lifecycle), world := t.world }

/-- Does something with the session held; a panic poisons the lock. -/
def holding {π : Type} (s : Shared φ ρ σ) (f : Session φ ρ σ → Except π α × Session φ ρ σ) :
    Except π α × Shared φ ρ σ :=
  match f s.acquire with
  | (.ok a, t) => (.ok a, s.release t)
  | (.error p, t) => (.error p, { s.release t with poisoned := true })

/-- Does something that cannot panic with the session held. -/
def withSession (s : Shared φ ρ σ) (f : Session φ ρ σ → α × Session φ ρ σ) : α × Shared φ ρ σ :=
  let (a, t) := f s.acquire
  (a, s.release t)

def state (s : Shared φ ρ σ) : State × Shared φ ρ σ := s.withSession fun t => (t.state, t)

/-- New settings, until the session has started. -/
def configure (s : Shared φ ρ σ) (settings : Settings) : Except Fault Unit × Shared φ ρ σ :=
  s.withSession fun t =>
    match t.state with
    | .uninitialized => (.ok (), ⟨Configurable.ofSettings settings, .uninitialized, t.world⟩)
    | _ => (.error (.violation .reconfigure), t)

end Lock

def note (s : Shared φ ρ σ) (n : Note) : Shared φ ρ σ :=
  { s with world := { s.world with host := s.world.host.note n } }

/-- Tries once in the life of the process to register the hook. -/
def register (s : Shared φ ρ σ) : Shared φ ρ σ :=
  if s.tried then s
  else if s.full then { s with tried := true }.note .hookRefused
  else { s with tried := true, hooks := s.hooks + 1 }

variable [Guest ρ σ] [Configurable φ]

def stop (s : Shared φ ρ σ) (fatal : Bool) : Except Panic (Except Fault Unit) × Shared φ ρ σ :=
  s.holding fun t => t.stop fatal

/-- What the hook does; `held` when the process ends while somebody uses the session. -/
def atExit (held : Bool) (s : Shared φ ρ σ) : Shared φ ρ σ :=
  if held then s.note .busyAtExit
  else if s.acquire.state = .running then
    match s.stop false with
    | (.ok (.ok ()), s) => s
    | (.ok (.error f), s) => s.note (.exitStopFailed f)
    | (.error _, s) => s.note .exitStopPanicked
  else s

/-- The end of the process runs the hook as often as it is registered. -/
def exit (s : Shared φ ρ σ) (held : Bool) : Shared φ ρ σ := Nat.repeat (atExit held) s.hooks s

variable [Source φ ρ σ]

/-- Starts the session and, if that makes it an owner, registers the hook. -/
def start (s : Shared φ ρ σ) : Except Panic (Except Fault Handle) × Shared φ ρ σ :=
  match s.holding Session.start with
  | (.ok (.ok h), s) => (.ok (.ok h), if h.ownership = .owned then s.register else s)
  | r => r

/-- Evaluates, starting the session first. -/
def evaluate (s : Shared φ ρ σ) (code : String) (env : Option Obj) :
    Except Panic (Except Fault HostValue) × Shared φ ρ σ :=
  match s.start with
  | (.error p, s) => (.error p, s)
  | (.ok (.error f), s) => (.ok (.error f), s)
  | (.ok (.ok _), s) => s.holding fun t => t.evaluate code env

end Shared
end GuestRuntime
