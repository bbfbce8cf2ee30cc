import GuestRuntime.Guest.Dialogue

/-!
Root frames. An object lives only while it is rooted, and roots are a stack; so what one activity
roots is released at once, by one call, when the activity ends in whatever way. A frame that rooted
nothing makes no call.
-/

namespace GuestRuntime

/-- An activity that may fail and counts what it roots. -/
abbrev Frame (α : Type) := ExceptT Fault (StateT Nat Dialogue) α

namespace Frame

variable {α : Type}

/-- A whole dialogue inside the activity, with frames of its own. A panic in it releases what was
rooted so far. -/
def inner (d : Dialogue α) : Frame α :=
  ExceptT.lift fun n => (d.within n).bind fun a => .done (a, n)

/-- A call that roots nothing. -/
def call (e : Entry) : Frame e.Answer := inner (Dialogue.call e)

def remark (n : Note) : Frame Unit := inner (Dialogue.remark n)

def fail (f : Fault) : Frame α := throw f

/-- Roots an object until the frame closes. -/
def root (x : Obj) : Frame Obj := do
  let x ← call (.protect x)
  modify (· + 1)
  return x

/-- The activity, then the release of what it rooted. -/
def close (f : Frame α) : Dialogue (Except Fault α) := do
  let (result, count) ← f.run.run 0
  if 0 < count then Dialogue.call (.unprotect count)
  return result

/-- What is done inside is done with the roots there are. -/
theorem run_inner (d : Dialogue α) (n : Nat) :
    (inner d).run.run n = (d.within n).bind fun a => .done (.ok a, n) :=
  Dialogue.bind_assoc (d.within n) _ _

end Frame
end GuestRuntime
