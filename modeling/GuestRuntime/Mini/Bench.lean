import GuestRuntime.Mini.Machine

/-!
The mini guest on a bench: its entry points called one at a time, by commands that may be grouped
into scopes. A scope counts what is rooted through it, in 32 bits, and releases as much when it
closes; a command that panics ends there and the next one goes on.
-/

namespace GuestRuntime.Mini

inductive Command
  | alloc (v : Value)
  | value (x : Obj)
  | call (e : Entry)
  /-- Roots through the innermost scope, if there is one. -/
  | protect (x : Obj)
  | tryEval (expr env : Obj) (flag : Int)
  | marshal (x : Obj)
  | leak
  | messages (mode : MessageMode)
  | probe
  /-- Whether the count wraps is how the host is built; else it panics where the count overflows. -/
  | scope (commands : List Command) (wraps : Bool := false)

instance : Inhabited Command := ⟨.probe⟩

mutual

/-- What a command answered. -/
inductive Answered
  | call (x : Dialogue.Exchange)
  | object (x : Obj)
  | value (v : Value)
  | rooted (x : Obj) (count : Int)
  | evaluated (flag : Int) (x : Obj) (v : Value)
  | marshaled (v : HostValue)
  | done
  | probed (m : Machine)
  | scope (steps : List Shown) (count : Int)
  | panicked (p : Panic)

/-- What can be seen after a command. -/
inductive Shown
  | mk (answered : Answered) (depth unprotects : Nat) (console : String)

end

namespace Bench

/-- What a scope counts in. -/
structure Scope where
  count : Int := 0
  wraps : Bool := false
  deriving DecidableEq, Repr

/-- A scope that counts one root more. -/
def Scope.rooted (c : Scope) : Except Panic Scope :=
  if c.count < shortTop ∨ c.wraps then .ok { c with count := shortened (c.count + 1) }
  else .error .addOverflow

/-- The innermost scope, and the world. -/
structure State where
  scope : Option Scope
  world : World Machine

def withMachine (s : State) (m : Machine) : State :=
  { s with world := { s.world with memory := m } }

def withOutput (s : State) (o : Output) : State :=
  { s with world := { s.world with host := { s.world.host with output := o } } }

/-- Continues with an answer, or ends with the panic. -/
def orPanic {α : Type} (r : Except Panic α × World Machine) (s : State)
    (f : α → State → Answered × State) : Answered × State :=
  match r with
  | (.ok a, w) => f a { s with world := w }
  | (.error p, w) => (.panicked p, { s with world := w })

/-- Counts an object that was rooted through the innermost scope. -/
def counting (x : Obj) (s : State) : Answered × State :=
  match s.scope with
  | none => (.object x, s)
  | some c =>
    match c.rooted with
    | .ok c => (.rooted x c.count, { s with scope := some c })
    | .error p => (.panicked p, s)

/-- A command that is no scope. -/
def single (c : Command) (s : State) : Answered × State :=
  let m := s.world.memory
  match c with
  | .alloc v =>
    let (x, m) := m.alloc v
    (.object x, withMachine s m)
  | .value x =>
    match m.object? x with
    | some v => (.value v, s)
    | none => (.panicked (.dangling x), s)
  | .call e => orPanic (s.world.call TheGuest.it e) s fun a s => (.call ⟨e, a⟩, s)
  | .protect x => orPanic (s.world.call TheGuest.it (.protect x)) s counting
  | .tryEval expr env flag =>
    orPanic (s.world.call TheGuest.it (.tryEval expr env flag)) s fun (flag, x) s =>
      (.evaluated flag x ((s.world.memory.object? x).getD .nil), s)
  | .marshal x =>
    orPanic ((Dialogue.marshal x).run TheGuest.it s.world) s fun v s => (.marshaled v, s)
  | .leak => (.done, withMachine s { m with leaky := true })
  | .messages mode => (.done, withMachine s { m with mode })
  | .probe => (.probed m, s)
  | .scope _ _ => (.done, s)

/-- The end of a scope with this count. -/
def closeScope (steps : List Shown) (count : Int) (s : State) : Answered × State :=
  if 0 < count then
    orPanic (s.world.call TheGuest.it (.unprotect count)) s fun _ s => (.scope steps count, s)
  else (.scope steps count, s)

/-- What is seen of an answer, the console text of the command being captured. -/
def shown (before : Option Sink) (r : Answered × State) : Shown × State :=
  let (held, o) := r.2.world.host.output.closeCapture before
  let m := r.2.world.memory
  (.mk r.1 m.roots.length m.unprotects (Utf8.decodeLossy held), withOutput r.2 o)

mutual

/-- One command. -/
def run : Command → State → Shown × State
  | .scope commands wraps, s =>
    let (before, o) := s.world.host.output.openCapture
    let (steps, t) := runAll commands { withOutput s o with scope := some { wraps } }
    let (a, t) := closeScope steps ((t.scope.map Scope.count).getD 0) t
    shown before (a, { t with scope := s.scope })
  | c, s =>
    let (before, o) := s.world.host.output.openCapture
    shown before (single c (withOutput s o))

/-- Commands in order. -/
def runAll : List Command → State → List Shown × State
  | [], s => ([], s)
  | c :: r, s =>
    let (x, s) := run c s
    let (xs, s) := runAll r s
    (x :: xs, s)

end

end Bench
end GuestRuntime.Mini
