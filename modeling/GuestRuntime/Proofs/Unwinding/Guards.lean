import GuestRuntime.Proofs.Checked.Cell

/-!
Statement by statement, with panics that unwind. A statement that panics ends what it stands in and
undoes nothing: what the statements before it did to the machine stays done. Only the guards are
given back on the way out:

        changing ( poke; poke; panic; poke )  ──▶  panicked, two of three done, nobody changes

So a program that panics leaves the machine as it was only if it looks before it acts. Main
statements: `prog_bind`, `looking_run` and `changing_run`.
-/

namespace GuestRuntime.Unwinding

open Checked Mini

/-- A program of statements; it leaves a world even if it panics. -/
abbrev Prog (α : Type) := ExceptT Trap (StateM (World Cell)) α

variable {α β : Type}

/-! ### Statements -/

/-- The machine, through a guard. -/
def peek : Prog Machine := fun v => (.ok v.memory.machine, v)

/-- An assignment to the machine, through a guard. -/
def poke (f : Machine → Machine) : Prog Unit := fun v =>
  (.ok (), { v with memory := { v.memory with machine := f v.memory.machine } })

def panic (p : Panic) : Prog α := throw (.panic p)

/-- A panic, unless the condition holds. -/
def assert (c : Prop) [Decidable c] (p : Panic) : Prog Unit := if c then return else panic p

/-- An act that is never trapped. If it were, the machine would be lost. -/
def untrapped (x : Act α) : Prog α := fun v =>
  match x v with
  | .ok (a, v') => (.ok a, v')
  | .error t => (.error t, { v with memory := { machine := {}, writing := true } })

/-! ### Guards -/

/-- A program with a guard, which is given back whether the program ends or panics. -/
def holding (take giveBack : Cell → Cell) (x : Prog α) : Prog α := fun v =>
  let o := x.run { v with memory := take v.memory }
  (o.1, { o.2 with memory := giveBack o.2.memory })

/-- A program that looks at the machine. -/
def looking (x : Prog α) : Prog α := fun v =>
  if v.memory.writing then (.error .borrowed, v)
  else holding (fun c => { c with readers := c.readers + 1 })
    (fun c => { c with readers := c.readers - 1 }) x v

/-- A program that changes the machine. -/
def changing (x : Prog α) : Prog α := fun v =>
  if v.memory.writing ∨ 0 < v.memory.readers then (.error .borrowed, v)
  else holding (fun c => { c with writing := true }) (fun c => { c with writing := false }) x v

/-- A world whose machine one program looks at. -/
def watched (w : World Machine) : World Cell := ⟨{ machine := w.memory, readers := 1 }, w.host⟩

/-- A world whose machine a program changes. -/
def taken (w : World Machine) : World Cell := ⟨{ machine := w.memory, writing := true }, w.host⟩

variable {x : Prog α} {f : α → Prog β} {v v' : World Cell} {w w' : World Machine} {a : α} {t : Trap}
  {p : Panic}

/-! ### One statement after another -/

theorem prog_bind (x : Prog α) (f : α → Prog β) (v : World Cell) : (x >>= f).run v =
    match x.run v with
    | (.ok a, v') => (f a).run v'
    | (.error t, v') => (.error t, v') := by
  rw [ExceptT.run_bind]
  change StateT.bind x.run _ v = _
  simp only [StateT.bind]
  rcases x.run v with ⟨_ | _, v'⟩ <;> rfl

theorem prog_bind_ok (h : x.run v = (.ok a, v')) : (x >>= f).run v = (f a).run v' := by
  rw [prog_bind, h]

theorem prog_bind_error (h : x.run v = (.error t, v')) : (x >>= f).run v = (.error t, v') := by
  rw [prog_bind, h]

theorem peek_bind (f : Machine → Prog β) : (peek >>= f).run v = (f v.memory.machine).run v := rfl

theorem assert_bind {c : Prop} [Decidable c] (hc : c) (f : Unit → Prog β) :
    (assert c p >>= f).run v = (f ()).run v :=
  prog_bind_ok (by rw [assert, if_pos hc]; rfl)

theorem assert_bind_not {c : Prop} [Decidable c] (hc : ¬ c) (f : Unit → Prog β) :
    (assert c p >>= f).run v = (.error (.panic p), v) :=
  prog_bind_error (by rw [assert, if_neg hc]; rfl)

theorem untrapped_run {x : Act α} (h : x v = .ok (a, v')) : (untrapped x).run v = (.ok a, v') := by
  change untrapped x v = _
  rw [untrapped, h]

/-! ### A guard taken and given back -/

variable {r : Except Trap α}

theorem holding_run {take giveBack : Cell → Cell} {u : World Cell}
    (h : x.run { v with memory := take v.memory } = (r, v'))
    (hu : { v' with memory := giveBack v'.memory } = u) : holding take giveBack x v = (r, u) := by
  change ((x.run { v with memory := take v.memory }).1, _) = _
  rw [h, hu]

theorem looking_run (h : x.run (watched w) = (r, watched w)) :
    (looking x).run (free w) = (r, free w) := by
  change looking x (free w) = _
  rw [looking, if_neg (by simp [free])]
  exact holding_run h rfl

theorem changing_run (h : x.run (taken w) = (r, taken w')) :
    (changing x).run (free w) = (r, free w') := by
  change changing x (free w) = _
  rw [changing, if_neg (by simp [free])]
  exact holding_run h rfl

end GuestRuntime.Unwinding
