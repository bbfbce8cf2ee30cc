import GuestRuntime.Proofs.Mini.Operations

/-!
Runs of a session with the mini guest: any operations in any order, and what they answered. The two
switches of the guest are operations like the others. A run is a fold of one step, and a statement
about all runs is one about the start and the step: `run_induction`.
-/

namespace GuestRuntime.Mini

/-- What can be done with a session. -/
inductive Op
  | start
  | evaluate (code : String) (env : Option Obj)
  | stop (fatal : Bool)
  /-- From now on every parse leaves its result rooted. -/
  | leak
  /-- From now on the guest is asked for its last message in this mode. -/
  | messages (mode : MessageMode)

inductive Answer
  | started (r : Except Fault Handle)
  | evaluated (r : Except Fault HostValue)
  | stopped (fatal : Bool) (r : Except Fault Unit)
  | switched

/-- A session whose guest was switched. -/
def switch (s : MiniSession) (f : Machine → Machine) : MiniSession :=
  { s with world := { s.world with memory := f s.world.memory } }

/-- One operation. -/
def perform (s : MiniSession) : Op → Session.Result Provider TheGuest Machine Answer
  | .start => (s.start.1.map .started, s.start.2)
  | .evaluate code env => ((s.evaluate code env).1.map .evaluated, (s.evaluate code env).2)
  | .stop fatal => ((s.stop fatal).1.map (.stopped fatal), (s.stop fatal).2)
  | .leak => (.ok .switched, switch s fun m => { m with leaky := true })
  | .messages mode => (.ok .switched, switch s fun m => { m with mode })

/-- The handle of an answer, if it is that of a start that succeeded. -/
def handle? : Except Panic Answer → Option Handle
  | .ok (.started (.ok h)) => some h
  | _ => none

/-- The flag of an answer, if it is that of a stop that succeeded. -/
def stop? : Except Panic Answer → Option Bool
  | .ok (.stopped fatal (.ok ())) => some fatal
  | _ => none

/-- A session, and what its operations answered so far. -/
structure Run where
  answers : List (Except Panic Answer)
  session : MiniSession

namespace Run

def step (r : Run) (op : Op) : Run :=
  ⟨r.answers ++ [(perform r.session op).1], (perform r.session op).2⟩

/-- The handles that starts answered. -/
def handles (r : Run) : List Handle := r.answers.filterMap handle?

/-- The flags of the stops that succeeded. -/
def stops (r : Run) : List Bool := r.answers.filterMap stop?

variable (r : Run) (op : Op)

theorem mem_handles_step {h : Handle} :
    h ∈ (r.step op).handles ↔ h ∈ r.handles ∨ handle? (perform r.session op).1 = some h := by
  simp [handles, step, List.filterMap_append]

theorem stops_step :
    (r.step op).stops = r.stops ++ (stop? (perform r.session op).1).toList := by
  cases hs : stop? (perform r.session op).1 <;> simp [stops, step, List.filterMap_append, hs]

end Run

/-- Operations in order. -/
def run (s : MiniSession) (ops : List Op) : Run := ops.foldl Run.step ⟨[], s⟩

/-- What holds at the beginning and is kept by every step holds after every run. -/
theorem run_induction {P : Run → Prop} {s : MiniSession} (h : P ⟨[], s⟩)
    (hstep : ∀ r op, P r → P (r.step op)) (ops : List Op) : P (run s ops) := by
  suffices ∀ r, P r → P (ops.foldl Run.step r) from this _ h
  induction ops with
  | nil => exact fun _ hr => hr
  | cons op ops ih => exact fun r hr => ih (r.step op) (hstep r op hr)

end GuestRuntime.Mini
