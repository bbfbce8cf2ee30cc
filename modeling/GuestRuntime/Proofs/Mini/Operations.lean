import GuestRuntime.Proofs.Mini.Answer
import GuestRuntime.Proofs.Session.Starting

/-!
What a session with the mini guest does, operation by operation: every way a start can end, the two
ways a stop of a running session can, and an evaluation as a start followed by an evaluation of the
running session. Main statements: `start_started`, `stop_stopped` and `evaluate_running`.
-/

namespace GuestRuntime.Mini

open Dialogue TheGuest

namespace Machine

/-- The machine opened once more. -/
def opened (m : Machine) : Machine := { m with opens := m.opens + 1 }

/-- The machine once it has been started. -/
def booted (m : Machine) (arguments : List Bytes) : Machine :=
  { m with
    initialized := true
    boots := m.boots + 1
    arguments := arguments.map Utf8.decodeLossy
    wired := true
    wirings := m.wirings + 1
    mainLoops := m.mainLoops + 1
    startup := m.startup ++ [.boot, .disableStackCheck, .installCallbacks, .setUpMainLoop] }

/-- The steps that end a guest. -/
def endSteps : List EndStep :=
  [.runLast, .runFinalizers, .killDevices, .cleanTempDir, .collect, .finish]

/-- The machine once it has been ended. -/
def tornDown (m : Machine) (fatal : Bool) : Machine :=
  { m with teardown := m.teardown ++ endSteps, ended := some fatal }

end Machine

/-- A host that holds what is written and has no home. -/
def bareHost : Host := { output := { shared := .buffer [] }, home := none, query := .missing }

section Guest

variable {m : Machine} {h : Host}

theorem run_bringUp_adopted (arguments : List Bytes) (hm : m.initialized = true) :
    (bringUp arguments).run it ⟨m, h⟩ = (.ok .adopted, ⟨m, h.note .adopted⟩) := by
  simp [bringUp, Dialogue.call, remark, Dialogue.bind, run, World.call, Guest.call, Machine.call,
    Machine.answer, hm, Host.callbacks]

theorem run_bringUp_owned (arguments : List Bytes) (hm : m.initialized = false) :
    (bringUp arguments).run it ⟨m, h⟩ = (.ok .owned, ⟨m.booted arguments, h.note .booted⟩) := by
  simp [bringUp, Dialogue.call, remark, Dialogue.bind, run, World.call, Guest.call, Machine.call,
    Machine.answer, Machine.starting, Machine.booted, hm, Host.callbacks]

theorem run_tearDown (fatal : Bool) (hm : m.ended = none) :
    (tearDown fatal).run it ⟨m, h⟩ = (.ok (), ⟨m.tornDown fatal, h⟩) := by
  simp [tearDown, Dialogue.call, Dialogue.bind, run, World.call, Guest.call, Machine.call,
    Machine.answer, Machine.ending, Machine.tornDown, Machine.endSteps, hm, Host.callbacks]

end Guest

variable {s s' : MiniSession}

/-- How a start ends. -/
inductive Started (s : MiniSession) : Except Fault Handle → MiniSession → Prop
  | running {g h} (hs : s.lifecycle = .running g h) : Started s (.ok h) s
  | shutDown (hs : s.lifecycle = .shutDown) : Started s (.error (.violation .restart)) s
  | misconfigured {i} (hs : s.lifecycle = .uninitialized) :
      Started s (.error (.misconfigured (.zeroInArgument i))) s
  | notOpened {source} (hs : s.lifecycle = .uninitialized) :
      Started s (.error Provider.loadFault) { s with source }
  | adopted {n host} (hs : s.lifecycle = .uninitialized)
      (hm : s.world.memory.initialized = true) :
      Started s (.ok ⟨n, .adopted⟩)
        { s with lifecycle := .running it ⟨n, .adopted⟩, world := ⟨s.world.memory.opened, host⟩ }
  | owned {n host arguments} (hs : s.lifecycle = .uninitialized)
      (hm : s.world.memory.initialized = false) :
      Started s (.ok ⟨n, .owned⟩)
        { s with
          lifecycle := .running it ⟨n, .owned⟩
          world := ⟨s.world.memory.opened.booted arguments, host⟩ }

/-- A start never panics, and ends in one of these ways. -/
theorem start_started (s : MiniSession) : ∃ r s', s.start = (.ok r, s') ∧ Started s r s' := by
  obtain ⟨⟨settings, failures⟩, lifecycle, ⟨m, h⟩⟩ := s
  cases lifecycle with
  | running g hd => exact ⟨_, _, rfl, .running rfl⟩
  | shutDown => exact ⟨_, _, rfl, .shutDown rfl⟩
  | uninitialized =>
    unfold Session.start
    simp only [Source.settings]
    cases Terminated.ofTexts settings.arguments with
    | error i => exact ⟨_, _, rfl, .misconfigured rfl⟩
    | ok arguments =>
      cases failures with
      | succ n => exact ⟨_, _, rfl, .notOpened rfl⟩
      | zero =>
        have hopen : Source.openGuest (⟨settings, 0⟩ : Provider) ⟨m, h⟩ =
            (.ok it, ⟨settings, 0⟩, ⟨m.opened, h⟩) := rfl
        simp only [hopen, Session.converse]
        by_cases hm : m.initialized = true
        · rw [run_bringUp_adopted arguments (m := m.opened) hm]
          exact ⟨_, _, rfl, .adopted rfl hm⟩
        · have hm : m.initialized = false := by simpa using hm
          rw [run_bringUp_owned arguments (m := m.opened) hm]
          exact ⟨_, _, rfl, .owned rfl hm⟩

theorem exists_running {hd : Handle} (h : Started s (.ok hd) s') :
    ∃ g, s'.lifecycle = .running g hd := by
  cases h with
  | running hs => exact ⟨_, hs⟩
  | adopted | owned => exact ⟨it, rfl⟩

/-- How a stop ends. -/
inductive Stopped (s : MiniSession) (fatal : Bool) : Except Fault Unit → MiniSession → Prop
  | beforeStart (hs : s.lifecycle = .uninitialized) :
      Stopped s fatal (.error (.violation .stopBeforeStart)) s
  | twice (hs : s.lifecycle = .shutDown) :
      Stopped s fatal (.error (.violation .stopTwice)) (s.note .stoppedTwice)
  | foreign {g n} (hs : s.lifecycle = .running g ⟨n, .adopted⟩) :
      Stopped s fatal (.error (.violation .stopForeign)) s
  | ended {g n} {host : Host} (hs : s.lifecycle = .running g ⟨n, .owned⟩) :
      Stopped s fatal (.ok ())
        { s with lifecycle := .shutDown, world := ⟨s.world.memory.tornDown fatal, host⟩ }

/-- A stop ends in one of these ways, unless the guest has been ended behind the session's back. -/
theorem stop_stopped (fatal : Bool)
    (hend : s.state = .running → s.world.memory.ended = none) :
    ∃ r s', s.stop fatal = (.ok r, s') ∧ Stopped s fatal r s' := by
  obtain ⟨source, lifecycle, ⟨m, h⟩⟩ := s
  cases lifecycle with
  | uninitialized => exact ⟨_, _, rfl, .beforeStart rfl⟩
  | shutDown => exact ⟨_, _, rfl, .twice rfl⟩
  | running g hd =>
    obtain ⟨n, o⟩ := hd
    cases o with
    | adopted => exact ⟨_, _, rfl, .foreign rfl⟩
    | owned =>
      simp only [Session.stop, Session.converse, run_tearDown fatal (hend rfl)]
      exact ⟨_, _, rfl, .ended rfl⟩

/-- The calls of an evaluation, from the moment the session runs. -/
def evaluationCalls (s : MiniSession) (code : String) (env : Option Obj) : List Exchange :=
  match s.start with
  | (.ok (.ok _), s₁) => (Dialogue.evaluate code env).exchanges it s₁.world
  | _ => []

/-- On a running session an evaluation changes the world only. -/
theorem evaluate_running {g : TheGuest} {hd : Handle} (hs : s.lifecycle = .running g hd)
    (code : String) (env : Option Obj) :
    ∃ w, s.evaluate code env =
        (checked s.world code env (s.world.memory.leaked (parses (evaluationCalls s code env))),
          { s with world := w }) ∧
      Settled s.world code env (evaluationCalls s code env) w := by
  have hstart := Session.start_of_running hs
  obtain ⟨w, hrun, hw⟩ := run_evaluate s.world code env
  have hcalls : evaluationCalls s code env = (Dialogue.evaluate code env).exchanges it s.world := by
    rw [evaluationCalls, hstart]
  rw [hcalls]
  refine ⟨w, ?_, hw⟩
  simp only [Session.evaluate, hstart, hs, Session.converse]
  rw [hrun]

/-- An evaluation is refused as the start is, or is one of the session that the start gives. -/
theorem evaluate_cases (s : MiniSession) (code : String) (env : Option Obj) :
    (∃ f s', Started s (.error f) s' ∧ s.evaluate code env = (.ok (.error f), s') ∧
      evaluationCalls s code env = []) ∨
    ∃ hd s₁ g, Started s (.ok hd) s₁ ∧ s₁.lifecycle = .running g hd ∧
      s.evaluate code env = s₁.evaluate code env ∧
      evaluationCalls s code env = evaluationCalls s₁ code env := by
  obtain ⟨r, s₁, hstart, hst⟩ := start_started s
  cases r with
  | error f =>
    refine .inl ⟨f, s₁, hst, ?_, ?_⟩
    · rw [Session.evaluate, hstart]
    · rw [evaluationCalls, hstart]
  | ok hd =>
    obtain ⟨g, hs₁⟩ := exists_running hst
    have hstart₁ := Session.start_of_running hs₁
    refine .inr ⟨hd, s₁, g, hst, hs₁, ?_, ?_⟩
    · rw [Session.evaluate, hstart, Session.evaluate, hstart₁]
    · rw [evaluationCalls, hstart, evaluationCalls, hstart₁]

end GuestRuntime.Mini
