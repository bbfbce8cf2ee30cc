import GuestRuntime.Session

/-!
Guests whose calls are recorded. A recorded guest is a guest and answers as the one it is made of;
its memory keeps what it was called besides. Every operation of a session with a recorded guest does
what it does with the guest alone:

        s ───op───▶ answer, t
        │ plain             │ plain
        s' ──op───▶ answer, t'

Main statements: `run_plain`, `start_plain`, `evaluate_plain` and `stop_plain`.
-/

namespace GuestRuntime

variable {φ ρ σ α : Type}

/-- A guest, or a source of guests, whose calls are recorded. -/
structure Recorded (α : Type) where
  inner : α

/-- A memory, and the calls made on it in order. -/
structure Record (σ : Type) where
  memory : σ
  calls : List Entry := []

instance [Guest ρ σ] : Guest (Recorded ρ) (Record σ) where
  call g e m :=
    let r := Guest.call g.inner e m.memory
    ⟨r.outcome, ⟨r.memory, m.calls ++ [e]⟩, r.callbacks⟩

/-- The world without the record. -/
def World.plain (w : World (Record σ)) : World σ := ⟨w.memory.memory, w.host⟩

/-- The world with a record. -/
def World.recorded (w : World σ) (calls : List Entry) : World (Record σ) :=
  ⟨⟨w.memory, calls⟩, w.host⟩

@[simp] theorem World.plain_recorded (w : World σ) (calls : List Entry) :
    (w.recorded calls).plain = w := rfl

instance [Source φ ρ σ] : Source (Recorded φ) (Recorded ρ) (Record σ) where
  settings f := Source.settings f.inner
  openGuest f w :=
    let (r, source, w') := Source.openGuest f.inner w.plain
    (r.map .mk, ⟨source⟩, w'.recorded w.memory.calls)

theorem Dialogue.unwind_plain [Guest ρ σ] (g : Recorded ρ) (held : List Nat)
    (w : World (Record σ)) : unwind g.inner held w.plain = (unwind g held w).plain := by
  induction held generalizing w with
  | nil => rfl
  | cons n held ih => exact ih (w.call g (.unprotect n)).2

/-- A recorded guest says what the guest says. -/
theorem Dialogue.run_plain [Guest ρ σ] (g : Recorded ρ) (d : Dialogue α) (w : World (Record σ)) :
    d.run g.inner w.plain = Prod.map id World.plain (d.run g w) := by
  induction d generalizing w with
  | done a => rfl
  | note n d ih => exact ih { w with host := w.host.note n }
  | ask e held k ih =>
    have hcall : w.plain.call g.inner e = Prod.map id World.plain (w.call g e) := rfl
    rw [run, run, hcall]
    rcases w.call g e with ⟨p | a, w⟩
    · exact congrArg (Prod.mk _) (unwind_plain g held w)
    · exact ih a w

def Lifecycle.plain : Lifecycle (Recorded ρ) → Lifecycle ρ
  | uninitialized => .uninitialized
  | running g h => .running g.inner h
  | shutDown => .shutDown

namespace Session

/-- A session whose guest is recorded. -/
abbrev Kept (φ ρ σ : Type) := Session (Recorded φ) (Recorded ρ) (Record σ)

/-- The session with the guest alone. -/
def plain (s : Kept φ ρ σ) : Session φ ρ σ := ⟨s.source.inner, s.lifecycle.plain, s.world.plain⟩

theorem state_plain (s : Kept φ ρ σ) : s.plain.state = s.state := by
  obtain ⟨source, lifecycle, world⟩ := s
  cases lifecycle <;> rfl

variable [Guest ρ σ]

theorem converse_plain (s : Kept φ ρ σ) (g : Recorded ρ) (d : Dialogue α) :
    s.plain.converse g.inner d = Prod.map id plain (s.converse g d) := by
  have hrun := d.run_plain g s.world
  rw [converse, converse]
  exact congrArg (fun r => (r.1, { s.plain with world := r.2 })) hrun

theorem stop_plain (s : Kept φ ρ σ) (fatal : Bool) :
    s.plain.stop fatal = Prod.map id plain (s.stop fatal) := by
  obtain ⟨source, lifecycle, world⟩ := s
  cases lifecycle with
  | uninitialized => rfl
  | shutDown => rfl
  | running g h =>
    obtain ⟨n, o⟩ := h
    cases o with
    | adopted => rfl
    | owned =>
      have hconverse := converse_plain ⟨source, .running g ⟨n, .owned⟩, world⟩ g (.tearDown fatal)
      unfold stop
      dsimp only [plain, Lifecycle.plain] at hconverse ⊢
      rw [hconverse]
      rcases converse _ g (.tearDown fatal) with ⟨p | ⟨⟩, t⟩
      · rfl
      · rfl

variable [Source φ ρ σ]

theorem start_plain (s : Kept φ ρ σ) : s.plain.start = Prod.map id plain s.start := by
  obtain ⟨source, lifecycle, world⟩ := s
  cases lifecycle with
  | running g h => rfl
  | shutDown => rfl
  | uninitialized =>
    unfold start
    dsimp only [plain, Lifecycle.plain, Source.settings, Source.openGuest]
    cases Terminated.ofTexts (Source.settings source.inner).arguments with
    | error i => rfl
    | ok arguments =>
      rcases Source.openGuest source.inner world.plain with ⟨f | g, source', world'⟩
      · rfl
      · have hconverse := converse_plain
          ⟨⟨source'⟩, .uninitialized, world'.recorded world.memory.calls⟩ ⟨g⟩ (.bringUp arguments)
        dsimp only [plain, Lifecycle.plain, World.plain_recorded, Except.map] at hconverse ⊢
        rw [hconverse]
        rcases converse _ _ (.bringUp arguments) with ⟨p | o, t⟩
        · rfl
        · rfl

theorem evaluate_plain (s : Kept φ ρ σ) (code : String) (env : Option Obj) :
    s.plain.evaluate code env = Prod.map id plain (s.evaluate code env) := by
  rw [evaluate, evaluate, start_plain]
  rcases s.start with ⟨p | (f | h), t⟩
  · rfl
  · rfl
  · obtain ⟨source, lifecycle, world⟩ := t
    cases lifecycle with
    | running g h => exact converse_plain _ g (.evaluate code env)
    | uninitialized => rfl
    | shutDown => rfl

end Session
end GuestRuntime
