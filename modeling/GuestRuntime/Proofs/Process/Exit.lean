import GuestRuntime.Proofs.Process.Life

/-!
Guests at the end of their process. The hook is registered by the starts of the process alone, so
what becomes of a guest that was started here depends on who started it:

        start, evaluate ──▶ hook registered ──exit──▶ ended, not fatally
        visit ──▶ no hook ──exit──▶ left as it is

A guest that a visitor has started and nobody has stopped is left running, unless a start or an
evaluation of the process finds it later. Main statements: `exit_life_iff` and
`exit_leaves_visited`.
-/

namespace GuestRuntime

open Dialogue

variable {φ ρ σ : Type} [Guest ρ σ]

namespace Session

/-- In the life of a guest there is one start at most, and it is an owner's. -/
theorem Lives.of_boot {l : Lifecycle (Recorded ρ)} {calls : List Entry} {arguments : List Bytes}
    (h : Lives l calls) (hboot : Entry.boot arguments ∈ calls) :
    (∃ g n, l = .running g ⟨n, .owned⟩ ∧ calls = entering arguments .owned) ∨
      l = .shutDown ∧ ∃ fatal, calls = entering arguments .owned ++ tearingDown fatal := by
  cases h with
  | unstarted => simp at hboot
  | running g h arguments' =>
    obtain ⟨n, o⟩ := h
    cases o with
    | adopted => simp [entering] at hboot
    | owned =>
      obtain rfl : arguments = arguments' := by simpa [entering] using hboot
      exact .inl ⟨g, n, rfl, rfl⟩
  | ended arguments' fatal =>
    obtain rfl : arguments = arguments' := by simpa [entering, tearingDown] using hboot
    exact .inr ⟨rfl, fatal, rfl⟩

end Session

namespace Shared

open Session (Lives)

variable [Configurable φ] {s : Kept φ ρ σ}

/-- The hook stops a guest of the session's own that is running. -/
theorem atExit_life (hsteady : Steady ρ) {g : Recorded ρ} {n : Nat}
    (hs : s.current.lifecycle = .running g ⟨n, .owned⟩) :
    (s.atExit false).current.life = s.current.life ++ tearingDown false := by
  obtain ⟨t, hstop, -, hlife⟩ := Session.stop_owned hsteady hs false
  obtain ⟨b, hb⟩ := holding_eq (s := s) fun t => t.stop false
  rw [hstop] at hb
  have hstate : s.acquire.state = .running := by
    rw [acquire_eq, Session.state, hs]
    rfl
  unfold atExit Shared.stop
  rw [if_neg Bool.false_ne_true, if_pos hstate, hb]
  exact hlife

/-- A guest of the session's own that is running when the process ends. -/
theorem exit_life (hsteady : Steady ρ) (h : s.Hooked) {g : Recorded ρ} {n : Nat}
    (hs : s.current.lifecycle = .running g ⟨n, .owned⟩) :
    (s.exit false).current.life =
      s.current.life ++ if 0 < s.hooks then tearingDown false else [] := by
  rcases exit_cases h false with ⟨hnone, he⟩ | ⟨hsome, he⟩
  · rw [he, hnone, if_neg (Nat.lt_irrefl 0), List.append_nil]
  · rw [he, if_pos hsome]
    exact atExit_life hsteady hs

variable [Source φ ρ σ]

/-- A guest that was started in a process, and the end of that process with nobody using the
session. The guest is ended by then, with some flag, exactly if it was ended before with that flag,
or if it runs until then, the flag is that of the hook, and some start or evaluation of the process
has found the guest its own. -/
theorem exit_life_iff (hsteady : Steady ρ) {w : World σ} {ops : List Op} {answers : List Answer}
    (hrun : (recording false w : Kept φ ρ σ).run ops = (answers, s)) {arguments : List Bytes}
    (hboot : Entry.boot arguments ∈ s.current.life) (fatal : Bool) :
    (s.exit false).current.life = entering arguments .owned ++ tearingDown fatal ↔
      s.current.life = entering arguments .owned ++ tearingDown fatal ∨
        s.current.state = .running ∧ fatal = false ∧ ∃ before op after,
          ops = before ++ op :: after ∧
            ((recording false w : Kept φ ρ σ).run before).2.Starts op := by
  have hsteps := run_steps hsteady (recording false w : Kept φ ρ σ) ops
  rw [hrun] at hsteps
  have hhooked : s.Hooked := hsteps.hooked rfl
  have hlives : Lives s.current.lifecycle s.current.life := hsteps.leads.lives .unstarted
  -- The hook is registered exactly if it was asked for, since the process takes it.
  have hasked : 0 < s.hooks ↔ ∃ before op after,
      ops = before ++ op :: after ∧ ((recording false w : Kept φ ρ σ).run before).2.Starts op := by
    rw [hhooked.pos_iff, hsteps.tried, hsteps.full]
    simp [recording, beginning]
  rw [← hasked]
  rcases hlives.of_boot hboot with ⟨g, n, hs, hlife⟩ | ⟨hs, fatal', hlife⟩
  · have hstate : s.current.state = .running := by
      rw [Session.state, hs]
      rfl
    rw [exit_life hsteady hhooked hs, hlife]
    by_cases hh : 0 < s.hooks
    · cases fatal <;> simp [hh, hstate, tearingDown]
    · simp [hh, tearingDown]
  · have hstate : s.current.state = .shutDown := by
      rw [Session.state, hs]
      rfl
    rw [(exit_of_ended hhooked hs false).2.2 rfl]
    simp [hstate]

/-- The arguments of the environment's settings. -/
def installedArguments : List Bytes :=
  ["rembed", "--quiet", "--vanilla", "--no-save", "--gui=none"].map Utf8.encode

/-- The hook ends a guest that a visitor has started, once a start has found it. -/
theorem exit_life_iff_found :
    Steady Library.Loaded ∧ ∃ answers, ∃ s : KeptLibrary,
      (recording false installed : KeptLibrary).run [.visit [.start] false, .start] = (answers, s) ∧
        Entry.boot installedArguments ∈ s.current.life ∧
        (s.exit false).current.life = entering installedArguments .owned ++ tearingDown false := by
  have hboot : Entry.boot installedArguments ∈ ((recording false installed : KeptLibrary).run
      [.visit [.start] false, .start]).2.current.life := by
    show _ ∈ entering installedArguments .owned
    simp [entering]
  have hstart : ((recording false installed : KeptLibrary).run
      [.visit [.start] false]).2.Starts .start := ⟨_, _, rfl, rfl⟩
  refine ⟨steady_loaded, _, _, rfl, hboot, ?_⟩
  exact (exit_life_iff steady_loaded rfl hboot false).mpr
    (.inr ⟨rfl, rfl, [.visit [.start] false], .start, [], rfl, hstart⟩)

/-- A visitor starts the guest and lets go of the session, and the process ends: the guest was
started here and is never ended. -/
theorem exit_leaves_visited :
    ∃ answers, ∃ s : KeptLibrary,
      (recording false installed : KeptLibrary).run [.visit [.start] false] = (answers, s) ∧
        Entry.boot installedArguments ∈ s.current.life ∧
        ∀ fatal, (s.exit false).current.life ≠
          entering installedArguments .owned ++ tearingDown fatal := by
  refine ⟨_, _, rfl, ?_, fun fatal h => ?_⟩
  · show _ ∈ entering installedArguments .owned
    simp [entering]
  · have hlife : entering installedArguments .owned =
        entering installedArguments .owned ++ tearingDown fatal := h
    simp [tearingDown] at hlife

end Shared
end GuestRuntime
