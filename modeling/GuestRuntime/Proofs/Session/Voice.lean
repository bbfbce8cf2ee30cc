import GuestRuntime.Proofs.Dialogue.Reply
import GuestRuntime.Proofs.Library.Opening
import GuestRuntime.Proofs.Mini.Operations
import GuestRuntime.Proofs.Process.Inner

/-!
What a session says. An evaluation makes the callbacks of the start it needs, if it needs one, and
then those of its dialogue with the guest. Which they are has nothing to do with the console, and
the console is what they make of it, for a session of its own and for the one a process shares. Main
statements: `Session.console_evaluate` and `Shared.console_evaluate`.
-/

namespace GuestRuntime

open Dialogue

variable {φ ρ σ : Type} [Guest ρ σ] [Source φ ρ σ]

/-- Opening a guest writes nothing to the console. -/
class Silent (φ : Type) (ρ σ : outParam Type) [Source φ ρ σ] : Prop where
  console_openGuest (source : φ) (w : World σ) :
    (Source.openGuest source w).2.2.host.console = w.host.console

namespace Session

/-- The callbacks that a start makes. -/
def startCallbacks (s : Session φ ρ σ) : List Callback :=
  match s.lifecycle with
  | .uninitialized =>
    match Terminated.ofTexts (Source.settings s.source).arguments with
    | .ok arguments =>
      match Source.openGuest s.source s.world with
      | (.ok g, _, w) => ((bringUp arguments).reply g w.memory).callbacks
      | (.error _, _, _) => []
    | .error _ => []
  | _ => []

/-- The callbacks that an evaluation makes: those of its start, and its own if there is a guest. -/
def evaluateCallbacks (s : Session φ ρ σ) (code : String) (env : Option Obj) : List Callback :=
  s.startCallbacks ++
    match s.start.2.lifecycle with
    | .running g _ => ((Dialogue.evaluate code env).reply g s.start.2.world.memory).callbacks
    | _ => []

variable {s : Session φ ρ σ} {g : ρ} {h : Handle}

theorem startCallbacks_of_running (hl : s.lifecycle = .running g h) : s.startCallbacks = [] := by
  rw [startCallbacks, hl]

theorem evaluateCallbacks_of_running (hl : s.lifecycle = .running g h) (code : String)
    (env : Option Obj) :
    s.evaluateCallbacks code env =
      ((Dialogue.evaluate code env).reply g s.world.memory).callbacks := by
  simp only [evaluateCallbacks, startCallbacks_of_running hl, start_of_running hl, hl,
    List.nil_append]

/-- A start and the evaluation after it say what the evaluation alone says. -/
theorem evaluateCallbacks_of_start (hl : s.start.2.lifecycle = .running g h) (code : String)
    (env : Option Obj) :
    s.evaluateCallbacks code env =
      s.startCallbacks ++ s.start.2.evaluateCallbacks code env := by
  rw [evaluateCallbacks_of_running hl, evaluateCallbacks]
  simp only [hl]

/-- An evaluation whose start is refused says what the start says. -/
theorem evaluateCallbacks_of_refused {r : Except Panic Fault} (hs : s.start.1 = r.map .error)
    (code : String) (env : Option Obj) : s.evaluateCallbacks code env = s.startCallbacks := by
  obtain ⟨hl, hnot⟩ := lifecycle_of_refused hs
  rw [evaluateCallbacks, hl]
  split
  · next g h hl => exact absurd hl (hnot g h)
  · exact List.append_nil _

theorem console_evaluate_of_running (hl : s.lifecycle = .running g h) (code : String)
    (env : Option Obj) :
    (s.evaluate code env).2.world.host.console =
      (s.world.host.callbacks (s.evaluateCallbacks code env)).console := by
  rw [evaluate_eq_converse hl, evaluateCallbacks_of_running hl]
  exact (run_reply g (.evaluate code env) s.world).2.2

variable [Silent φ ρ σ]

theorem console_start (s : Session φ ρ σ) :
    s.start.2.world.host.console = (s.world.host.callbacks s.startCallbacks).console := by
  have hopened {g? source w} (hopen : Source.openGuest s.source s.world = (g?, source, w)) :
      w.host.console = s.world.host.console := by
    simpa only [hopen] using Silent.console_openGuest s.source s.world
  have hcases := s.start_starting
  generalize s.start.1 = r, s.start.2 = s' at hcases
  cases hcases with
  | running hl | shutDown hl =>
    rw [startCallbacks, hl]
    rfl
  | misconfigured hl harguments =>
    simp only [startCallbacks, hl, harguments]
    rfl
  | notOpened hl harguments hopen =>
    simp only [startCallbacks, hl, harguments, hopen]
    exact hopened hopen
  | @panicked arguments g _ w _ w' hl harguments hopen hrun =>
    simp only [startCallbacks, hl, harguments, hopen]
    have hreply := (run_reply g (bringUp arguments) w).2.2
    rw [hrun] at hreply
    exact hreply.trans (Host.console_callbacks _ (hopened hopen))
  | @entered arguments g _ w _ w' hl harguments hopen hrun =>
    simp only [startCallbacks, hl, harguments, hopen]
    have hreply := (run_reply g (bringUp arguments) w).2.2
    rw [hrun] at hreply
    exact hreply.trans (Host.console_callbacks _ (hopened hopen))

/-- The console after an evaluation is what its callbacks make of the console before. -/
theorem console_evaluate (s : Session φ ρ σ) (code : String) (env : Option Obj) :
    (s.evaluate code env).2.world.host.console =
      (s.world.host.callbacks (s.evaluateCallbacks code env)).console := by
  rcases s.evaluate_cases code env with ⟨h, hs, heval⟩ | ⟨r, hs, heval⟩
  · obtain ⟨g, hl⟩ := lifecycle_of_started hs
    rw [heval, evaluateCallbacks_of_start hl, Host.callbacks_append]
    exact (console_evaluate_of_running hl code env).trans
      (Host.console_callbacks _ s.console_start)
  · rw [heval, evaluateCallbacks_of_refused hs]
    exact s.console_start

end Session

namespace Shared

variable [Configurable φ]

omit [Guest ρ σ] [Source φ ρ σ] in
theorem world_current (s : Shared φ ρ σ) : s.current.world = s.world := by
  unfold current
  split <;> rfl

/-- The session that a process shares says what it would say alone. -/
theorem console_evaluate [Silent φ ρ σ] (s : Shared φ ρ σ) (code : String) (env : Option Obj) :
    (s.evaluate code env).2.world.host.console =
      (s.world.host.callbacks (s.current.evaluateCallbacks code env)).console := by
  rw [← world_current, ← world_current]
  rcases s.evaluate_current code env with ⟨h, t, hs, ht, -, hcurrent⟩ | ⟨r, hs, -, hcurrent⟩
  · obtain ⟨g, hl⟩ := Session.lifecycle_of_started hs
    have htl : t.lifecycle = .running g h := ht.lifecycle_eq.trans hl
    rw [hcurrent, Session.evaluateCallbacks_of_start hl, Host.callbacks_append,
      Session.console_evaluate_of_running htl, Session.evaluateCallbacks_of_running htl,
      Session.evaluateCallbacks_of_running hl, ht.memory_eq]
    exact Host.console_callbacks _ (ht.console_eq.trans s.current.console_start)
  · rw [hcurrent.console_eq, Session.evaluateCallbacks_of_refused hs]
    exact s.current.console_start

end Shared

/-! ### Guests that are opened silently -/

instance : Silent Mini.Provider Mini.TheGuest Mini.Machine where
  console_openGuest source w := by
    show (Mini.Provider.openGuest source w).2.2.host.console = _
    unfold Mini.Provider.openGuest
    split <;> rfl

theorem Library.console_load (path : Path) (w : World Library.Disk) :
    (Library.load path w).2.host.console = w.host.console := by
  unfold Library.load
  split
  · rfl
  · dsimp only
    split <;> split <;> rfl

instance : Silent Library.Locator Library.Loaded Library.Disk where
  console_openGuest source w := by
    show (Library.Locator.openGuest source w).2.2.host.console = _
    unfold Library.Locator.openGuest
    rcases Home.resolve source.settings w.host.query with f | ⟨home, note⟩
    · rfl
    dsimp only
    rcases Home.libraryPath home with f | path
    · rfl
    have hload := Library.console_load path { w with host := w.host.note note }
    dsimp only
    generalize Library.load path { w with host := w.host.note note } = r at hload
    obtain ⟨f | g, w'⟩ := r
    · exact hload
    · exact hload

end GuestRuntime
