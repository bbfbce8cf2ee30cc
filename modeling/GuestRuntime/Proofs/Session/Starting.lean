import GuestRuntime.Session

/-!
All that a start can do, whatever the guest and wherever it comes from:

        arguments sent? ──▶ guest opened? ──▶ brought up ──▶ running
              │                   │               │
              ▼                   ▼               ▼
         misconfigured         a fault          a panic

An answer that is no handle leaves a session that does not run. Main statement:
`Session.start_starting`.
-/

namespace GuestRuntime.Session

open Dialogue

variable {φ ρ σ : Type} [Guest ρ σ] [Source φ ρ σ]

/-- How a start ends. Only an opened guest is brought up, with the arguments of the settings. -/
inductive Starting (s : Session φ ρ σ) : Except Panic (Except Fault Handle) → Session φ ρ σ → Prop
  | running {g h} (hl : s.lifecycle = .running g h) : Starting s (.ok (.ok h)) s
  | shutDown (hl : s.lifecycle = .shutDown) : Starting s (.ok (.error (.violation .restart))) s
  | misconfigured {i} (hl : s.lifecycle = .uninitialized)
      (harguments : Terminated.ofTexts (Source.settings s.source).arguments = .error i) :
      Starting s (.ok (.error (.misconfigured (.zeroInArgument i)))) s
  | notOpened {arguments f source world} (hl : s.lifecycle = .uninitialized)
      (harguments : Terminated.ofTexts (Source.settings s.source).arguments = .ok arguments)
      (hopen : Source.openGuest s.source s.world = (.error f, source, world)) :
      Starting s (.ok (.error f)) { s with source, world }
  | panicked {arguments g source world p world'} (hl : s.lifecycle = .uninitialized)
      (harguments : Terminated.ofTexts (Source.settings s.source).arguments = .ok arguments)
      (hopen : Source.openGuest s.source s.world = (.ok g, source, world))
      (hrun : (bringUp arguments).run g world = (.error p, world')) :
      Starting s (.error p) { s with source, world := world' }
  | entered {arguments g source world o world'} (hl : s.lifecycle = .uninitialized)
      (harguments : Terminated.ofTexts (Source.settings s.source).arguments = .ok arguments)
      (hopen : Source.openGuest s.source s.world = (.ok g, source, world))
      (hrun : (bringUp arguments).run g world = (.ok o, world')) :
      Starting s (.ok (.ok ⟨world'.host.nextSerial, o⟩))
        (enter { s with source, world := world' } g o).2

theorem start_starting (s : Session φ ρ σ) : Starting s s.start.1 s.start.2 := by
  obtain ⟨source, lifecycle, world⟩ := s
  cases lifecycle with
  | running g h => exact .running rfl
  | shutDown => exact .shutDown rfl
  | uninitialized =>
    unfold start
    dsimp only
    rcases harguments : Terminated.ofTexts (Source.settings source).arguments with i | arguments
    · exact .misconfigured rfl harguments
    rcases hopen : Source.openGuest source world with ⟨f | g, source', world'⟩
    · exact .notOpened rfl harguments hopen
    rcases hrun : (bringUp arguments).run g world' with ⟨p | o, world''⟩
    · simp only [converse, hrun]
      exact .panicked rfl harguments hopen hrun
    · simp only [converse, hrun]
      exact .entered rfl harguments hopen hrun

theorem start_of_running {s : Session φ ρ σ} {g : ρ} {h : Handle}
    (hl : s.lifecycle = .running g h) : s.start = (.ok (.ok h), s) := by
  rw [start, hl]

theorem evaluate_eq_converse {s : Session φ ρ σ} {g : ρ} {h : Handle}
    (hl : s.lifecycle = .running g h) (code : String) (env : Option Obj) :
    s.evaluate code env = s.converse g (.evaluate code env) := by
  simp only [evaluate, start_of_running hl, hl]

/-- A start that answers with a handle leaves the session running, with that handle. -/
theorem lifecycle_of_started {s : Session φ ρ σ} {h : Handle} (hs : s.start.1 = .ok (.ok h)) :
    ∃ g, s.start.2.lifecycle = .running g h := by
  have hcases := s.start_starting
  rw [hs] at hcases
  generalize s.start.2 = s' at hcases
  cases hcases with
  | running hl => exact ⟨_, hl⟩
  | entered => exact ⟨_, rfl⟩

/-- After any other answer it is in the stage in which it was, and does not run. -/
theorem lifecycle_of_refused {s : Session φ ρ σ} {r : Except Panic Fault}
    (hs : s.start.1 = r.map .error) :
    s.start.2.lifecycle = s.lifecycle ∧ ∀ g h, s.lifecycle ≠ .running g h := by
  have hcases := s.start_starting
  rw [hs] at hcases
  generalize s.start.2 = s' at hcases
  rcases r with p | f
  · cases hcases with
    | panicked hl => exact ⟨rfl, by simp [hl]⟩
  · cases hcases with
    | shutDown hl | misconfigured hl | notOpened hl => exact ⟨rfl, by simp [hl]⟩

/-- An evaluation is one of the running session that its start gives, or it is answered as the start
is. -/
theorem evaluate_cases (s : Session φ ρ σ) (code : String) (env : Option Obj) :
    (∃ h, s.start.1 = .ok (.ok h) ∧ s.evaluate code env = s.start.2.evaluate code env) ∨
    ∃ r : Except Panic Fault, s.start.1 = r.map .error ∧
      s.evaluate code env = (r.map .error, s.start.2) := by
  rcases hstart : s.start with ⟨p | f | h, s'⟩
  · exact .inr ⟨.error p, rfl, by rw [evaluate, hstart]; rfl⟩
  · exact .inr ⟨.ok f, rfl, by rw [evaluate, hstart]; rfl⟩
  · have hh : s.start.1 = .ok (.ok h) := by rw [hstart]
    obtain ⟨g, hl⟩ := lifecycle_of_started hh
    replace hl : s'.lifecycle = .running g h := by simpa only [hstart] using hl
    refine .inl ⟨h, rfl, ?_⟩
    rw [evaluate_eq_converse hl, evaluate, hstart]
    simp only [hl]

end GuestRuntime.Session
