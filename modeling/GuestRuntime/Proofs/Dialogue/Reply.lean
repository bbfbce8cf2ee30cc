import GuestRuntime.Proofs.Console.View
import GuestRuntime.Guest.Dialogue

/-!
A dialogue apart from its process. To the process it runs in a dialogue is what one call is: it has
an outcome, it leaves the guest's memory, and it makes callbacks, and none of the three depends on
the process. Main statement: `run_reply`.
-/

namespace GuestRuntime.Dialogue

variable {α ρ σ : Type} [Guest ρ σ]

/-- What the release of open frames leaves of the guest's memory, and the callbacks it makes. -/
def released (g : ρ) : List Nat → σ → σ × List Callback
  | [], m => (m, [])
  | n :: outer, m =>
    let r := Guest.call g (.unprotect n) m
    let (m, cs) := released g outer r.memory
    (m, r.callbacks ++ cs)

/-- What a dialogue does to whoever hosts the guest. -/
def reply (g : ρ) : Dialogue α → σ → Reply σ α
  | done a, m => ⟨.ok a, m, []⟩
  | note _ d, m => d.reply g m
  | ask e held k, m =>
    let r := Guest.call g e m
    match r.outcome with
    | .ok a =>
      let r' := (k a).reply g r.memory
      { r' with callbacks := r.callbacks ++ r'.callbacks }
    | .error p =>
      let (m, cs) := released g held r.memory
      ⟨.error p, m, r.callbacks ++ cs⟩

theorem unwind_released (g : ρ) (held : List Nat) (w : World σ) :
    (unwind g held w).memory = (released g held w.memory).1 ∧
      (unwind g held w).host = w.host.callbacks (released g held w.memory).2 := by
  induction held generalizing w with
  | nil => exact ⟨rfl, rfl⟩
  | cons n held ih =>
    obtain ⟨hmemory, hhost⟩ := ih (w.call g (.unprotect n)).2
    exact ⟨hmemory, hhost.trans (Host.callbacks_append _ _ _).symm⟩

/-- In every process a dialogue gives its outcome and leaves its memory; the console is what its
callbacks make of it. -/
theorem run_reply (g : ρ) (d : Dialogue α) (w : World σ) :
    (d.run g w).1 = (d.reply g w.memory).outcome ∧
      (d.run g w).2.memory = (d.reply g w.memory).memory ∧
      (d.run g w).2.host.console =
        (w.host.callbacks (d.reply g w.memory).callbacks).console := by
  induction d generalizing w with
  | done a => exact ⟨rfl, rfl, rfl⟩
  | note n d ih =>
    obtain ⟨houtcome, hmemory, hconsole⟩ := ih { w with host := w.host.note n }
    exact ⟨houtcome, hmemory, hconsole.trans (Host.console_callbacks _ (Host.console_note _ n))⟩
  | ask e held k ih =>
    simp only [run, reply, World.call]
    rcases hcall : (Guest.call g e w.memory).outcome with p | a
    · obtain ⟨hmemory, hhost⟩ := unwind_released g held
        ⟨(Guest.call g e w.memory).memory, w.host.callbacks (Guest.call g e w.memory).callbacks⟩
      refine ⟨rfl, hmemory, congrArg Host.console (hhost.trans ?_)⟩
      rw [Host.callbacks_append]
    · obtain ⟨houtcome, hmemory, hconsole⟩ := ih a
        ⟨(Guest.call g e w.memory).memory, w.host.callbacks (Guest.call g e w.memory).callbacks⟩
      exact ⟨houtcome, hmemory, hconsole.trans (by rw [Host.callbacks_append])⟩

end GuestRuntime.Dialogue
