import GuestRuntime.Mini.Machine
import GuestRuntime.Proofs.Checked.Step

/-!
The machine in a cell. It is looked at by any number at once, or changed by one alone; whoever takes
it otherwise is trapped:

        free ──look──▶ readers + 1 ──end──▶ free
          │                 └── change ──▶ borrowed
          └──change──▶ writing ──end──▶ free
                            └── look, change ──▶ borrowed

What is done with a cell that nobody has taken leaves it so. Main statements: `look_eq`, `change_eq`
and `writeConsole_eq`.
-/

namespace GuestRuntime.Checked

open Mini

/-- A machine, how many are looking at it, and whether somebody is changing it. -/
structure Cell where
  machine : Machine
  readers : Nat := 0
  writing : Bool := false

/-- What is done in a process with the machine in its cell. -/
abbrev Act (α : Type) := StateT (World Cell) Step α

/-- A world whose machine nobody has taken. -/
def free (w : World Machine) : World Cell := ⟨{ machine := w.memory }, w.host⟩

variable {α β : Type}

/-- A step that leaves memory alone. -/
def Act.step (x : Step α) : Act α := StateT.lift x

/-- What is done while the machine is looked at. -/
def reading (f : Machine → Act α) : Act α := fun w =>
  if w.memory.writing then .error .borrowed
  else do
    let (a, w) ← f w.memory.machine
      { w with memory := { w.memory with readers := w.memory.readers + 1 } }
    return (a, { w with memory := { w.memory with readers := w.memory.readers - 1 } })

/-- What is done while the machine is changed; it gives the machine after it. -/
def writing (f : Machine → Act (α × Machine)) : Act α := fun w =>
  if w.memory.writing ∨ 0 < w.memory.readers then .error .borrowed
  else do
    let ((a, m), w) ← f w.memory.machine { w with memory := { w.memory with writing := true } }
    return (a, { w with memory := { w.memory with machine := m, writing := false } })

/-- A look at the machine, by a step. -/
def look (g : Machine → Step α) : Act α := reading fun m => Act.step (g m)

/-- A change of the machine, by a step. -/
def change (g : Machine → Step (α × Machine)) : Act α := writing fun m => Act.step (g m)

/-- A call of the host's. -/
def callback (c : Callback) : Act Unit := fun w =>
  .ok ((), { w with host := w.host.callbacks [c] })

/-- Text for the console, if there is one; by then nobody looks at the machine any more. -/
def writeConsole (text : String) (kind : Int) : Act Unit := do
  if ← look fun m => .ok m.wired then
    callback (.write (some (Utf8.encode text)) (shortened (Utf8.encode text).length) kind)

variable {w : World Machine} {v : World Cell} {a : α} {t : Trap}

/-! ### Taken twice -/

theorem change_of_readers (g : Machine → Step (α × Machine)) (h : 0 < v.memory.readers) :
    change g v = .error .borrowed := if_pos (.inr h)

theorem look_of_writing (g : Machine → Step α) (h : v.memory.writing = true) :
    look g v = .error .borrowed := if_pos h

/-- A change in the middle of a look. -/
theorem reading_change (g : Machine → Step (α × Machine)) :
    reading (fun _ => change g) (free w) = .error .borrowed := by
  rw [reading, if_neg (by simp [free]), change_of_readers g (by simp)]
  rfl

/-- A look in the middle of a change. -/
theorem writing_look (g : Machine → Step (α × Machine)) :
    writing (fun _ => look g) (free w) = .error .borrowed := by
  rw [writing, if_neg (by simp [free]), look_of_writing g rfl]
  rfl

/-! ### Taken and given back -/

/-- One act after another. -/
theorem act_bind_eq {x : Act α} {f : α → Act β} {v' : World Cell} (h : x v = .ok (a, v')) :
    (x >>= f) v = f a v' := by
  change (x v >>= fun p => f p.1 p.2) = _
  rw [h]
  rfl

theorem act_bind_error {x : Act α} {f : α → Act β} (h : x v = .error t) :
    (x >>= f) v = .error t := by
  change (x v >>= fun p => f p.1 p.2) = _
  rw [h]
  rfl

theorem step_eq {x : Step α} (h : x = .ok a) : Act.step x v = .ok (a, v) := by
  rw [h]
  rfl

theorem step_error {x : Step α} (h : x = .error t) : Act.step x v = .error t := by
  rw [h]
  rfl

theorem look_eq {g : Machine → Step α} (h : g w.memory = .ok a) :
    look g (free w) = .ok (a, free w) := by
  rw [look, reading, if_neg (by simp [free]), free, h]
  rfl

theorem look_error {g : Machine → Step α} (h : g w.memory = .error t) :
    look g (free w) = .error t := by
  rw [look, reading, if_neg (by simp [free]), free, h]
  rfl

theorem change_eq {g : Machine → Step (α × Machine)} {m : Machine}
    (h : g w.memory = .ok (a, m)) : change g (free w) = .ok (a, free ⟨m, w.host⟩) := by
  rw [change, writing, if_neg (by simp [free]), free, h]
  rfl

theorem change_error {g : Machine → Step (α × Machine)} (h : g w.memory = .error t) :
    change g (free w) = .error t := by
  rw [change, writing, if_neg (by simp [free]), free, h]
  rfl

theorem writeConsole_eq (text : String) (kind : Int) :
    writeConsole text kind (free w) =
      .ok ((), free ⟨w.memory, w.host.callbacks (w.memory.printing kind text)⟩) := by
  have hlook : look (fun m => .ok m.wired) (free w) = .ok (w.memory.wired, free w) := look_eq rfl
  rw [writeConsole, act_bind_eq hlook, Machine.printing]
  cases w.memory.wired <;> rfl

end GuestRuntime.Checked
