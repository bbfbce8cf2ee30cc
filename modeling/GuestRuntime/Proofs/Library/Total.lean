import GuestRuntime.Proofs.Library.Opening
import GuestRuntime.Proofs.Process.Inner

/-!
A session with a guest in a library answers whatever is asked of it: a library does not panic, and
so neither does what is built on it, up to a session that a whole process shares. Main statements:
`use_answers` and `shared_evaluate_answers`.
-/

namespace GuestRuntime.Library

open Dialogue Session

theorem start_answers (s : LibrarySession) : ∃ r s', s.start = (.ok r, s') := by
  have hcases := s.start_starting
  generalize hr : s.start.1 = r, s.start.2 = s' at hcases
  rcases r with p | r
  · cases hcases with
    | @panicked arguments g _ w p w' hl harguments hopen hrun =>
      obtain ⟨a, w'', hok⟩ := run_loaded g (bringUp arguments) w
      rw [hok] at hrun
      cases hrun
  · exact ⟨r, s.start.2, Prod.ext hr rfl⟩

/-- A start is refused with a fault, if it is refused. -/
theorem start_of_refused {s : LibrarySession} {r : Except Panic Fault}
    (hs : s.start.1 = r.map .error) : ∃ f, r = .ok f := by
  obtain ⟨r', s', hstart⟩ := start_answers s
  cases r with
  | error p => simp [hstart, Except.map] at hs
  | ok f => exact ⟨f, rfl⟩

theorem converse_answers {α : Type} (s : LibrarySession) (g : Loaded) (d : Dialogue α) :
    ∃ a w, s.converse g d = (.ok a, { s with world := w }) := by
  obtain ⟨a, w, hrun⟩ := run_loaded g d s.world
  exact ⟨a, w, by rw [converse, hrun]⟩

theorem evaluate_of_running_answers {s : LibrarySession} {g : Loaded} {h : Handle}
    (hl : s.lifecycle = .running g h) (code : String) (env : Option Obj) :
    ∃ r w, s.evaluate code env = (.ok r, { s with world := w }) := by
  rw [evaluate_eq_converse hl]
  exact converse_answers s g (.evaluate code env)

theorem evaluate_answers (s : LibrarySession) (code : String) (env : Option Obj) :
    ∃ r s', s.evaluate code env = (.ok r, s') := by
  rcases s.evaluate_cases code env with ⟨h, hs, heval⟩ | ⟨r, hs, heval⟩
  · obtain ⟨g, hl⟩ := lifecycle_of_started hs
    obtain ⟨r, w, hrun⟩ := evaluate_of_running_answers hl code env
    exact ⟨r, _, heval.trans hrun⟩
  · obtain ⟨f, rfl⟩ := start_of_refused hs
    exact ⟨_, _, heval⟩

theorem stop_answers (s : LibrarySession) (fatal : Bool) : ∃ r s', s.stop fatal = (.ok r, s') := by
  unfold stop
  split
  · exact ⟨_, _, rfl⟩
  · exact ⟨_, _, rfl⟩
  · exact ⟨_, _, rfl⟩
  · next g n _ =>
    obtain ⟨⟨⟩, w, hrun⟩ := converse_answers s g (tearDown fatal)
    simp only [hrun]
    exact ⟨_, _, rfl⟩

theorem use_answers (s : LibrarySession) (u : Use) : ∃ a s', s.use u = (.ok a, s') := by
  cases u with
  | start =>
    obtain ⟨r, s', hstart⟩ := start_answers s
    exact ⟨.started r, s', by rw [use, hstart]; rfl⟩
  | evaluate code env =>
    obtain ⟨r, s', heval⟩ := evaluate_answers s code env
    exact ⟨.evaluated r, s', by rw [use, heval]; rfl⟩
  | stop fatal =>
    obtain ⟨r, s', hstop⟩ := stop_answers s fatal
    exact ⟨.stopped r, s', by rw [use, hstop]; rfl⟩

/-- So no use keeps those after it from being made. -/
theorem useAll_cons_snd (s : LibrarySession) (u : Use) (us : List Use) :
    (s.useAll (u :: us)).2 = ((s.use u).2.useAll us).2 := by
  obtain ⟨a, s', huse⟩ := use_answers s u
  rw [useAll, huse]

theorem shared_evaluate_answers (s : SharedLibrary) (code : String) (env : Option Obj) :
    ∃ r s', s.evaluate code env = (.ok r, s') := by
  rcases s.evaluate_current code env with ⟨h, t, hs, ht, heval, -⟩ | ⟨r, hs, heval, -⟩
  · obtain ⟨g, hl⟩ := lifecycle_of_started hs
    obtain ⟨r, w, hrun⟩ := evaluate_of_running_answers (ht.lifecycle_eq.trans hl) code env
    exact ⟨r, _, Prod.ext (heval.trans (congrArg Prod.fst hrun)) rfl⟩
  · obtain ⟨f, rfl⟩ := start_of_refused hs
    exact ⟨_, _, Prod.ext heval rfl⟩

end GuestRuntime.Library
