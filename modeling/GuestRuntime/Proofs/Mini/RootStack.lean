import GuestRuntime.Proofs.Mini.FirstExpression

/-!
The root stack of a mini guest, as a list. An evaluation puts its own frame on top of what is
there, and the evaluation that explains a failure one on top of that; each frame takes exactly its
roots off again, also where the guest panics in it. What stays is what leaking parses left, and the
answer to an evaluation of a running session is refused exactly if that is anything. Nothing here
asks how the session came to be as it is. Main statement: `evaluate_roots`.
-/

namespace GuestRuntime.Mini

open Dialogue TheGuest Machine

variable {s s' : MiniSession} {code : String} {env : Option Obj}

theorem Started.roots_eq {r : Except Fault Handle} (h : Started s r s') :
    s'.world.memory.roots = s.world.memory.roots := by
  cases h <;> rfl

theorem Started.leaky_eq {r : Except Fault Handle} (h : Started s r s') :
    s'.world.memory.leaky = s.world.memory.leaky := by
  cases h <;> rfl

/-- A running session is not refused. -/
theorem Started.state_ne_running {f : Fault} (h : Started s (.error f) s') :
    s.state ≠ .running := by
  cases h with
  | shutDown hs | misconfigured hs | notOpened hs => simp [Session.state, hs, Lifecycle.state]

/-- A guest that has been ended already panics at the last step. -/
theorem run_tearDown_again (fatal b : Bool) {m : Machine} {h : Host} (hm : m.ended = some b) :
    (tearDown fatal).run it ⟨m, h⟩ =
      (.error .finishedTwice, ⟨{ m with teardown := m.teardown ++ endSteps.take 5 }, h⟩) := by
  simp [tearDown, Dialogue.call, Dialogue.bind, run, World.call, Guest.call, Machine.call,
    Machine.answer, Machine.panic, Machine.ending, Machine.endSteps, hm, Host.callbacks]

/-- A stop leaves the stack alone even where it panics, and never panics over it. -/
theorem stop_roots (s : MiniSession) (fatal : Bool) :
    (s.stop fatal).2.world.memory.roots = s.world.memory.roots ∧
      ∀ n, (s.stop fatal).1 ≠ .error (.tooManyUnprotected n) := by
  cases hend : s.world.memory.ended with
  | none =>
    obtain ⟨r, s', hstop, hst⟩ := stop_stopped fatal fun _ => hend
    rw [hstop]
    exact ⟨by cases hst <;> rfl, by simp⟩
  | some b =>
    obtain ⟨source, lifecycle, ⟨m, h⟩⟩ := s
    cases lifecycle with
    | uninitialized | shutDown => exact ⟨rfl, by simp [Session.stop]⟩
    | running g hd =>
      obtain ⟨n, o⟩ := hd
      cases o with
      | adopted => exact ⟨rfl, by simp [Session.stop]⟩
      | owned =>
        simp only [Session.stop, Session.converse, run_tearDown_again fatal b hend]
        simp

theorem answered_not_violation (w : World Machine) (v : Violation) :
    answered w code env ≠ .ok (.error (.violation v)) := by
  unfold answered
  split
  · simp
  · simp
  · split <;> simp

/-- What an evaluation is refused for. -/
theorem checked_violation_iff {w : World Machine} {n : Nat} {r : Except Fault HostValue}
    (hr : checked w code env n = .ok r) : (∃ v, r = .error (.violation v)) ↔ n ≠ 0 := by
  obtain ⟨r', hr', rfl⟩ := checked_eq_ok.mp hr
  by_cases hn : n = 0
  · rw [if_pos hn]
    constructor
    · rintro ⟨v, rfl⟩
      exact absurd hr' (answered_not_violation w v)
    · exact fun h => absurd hn h
  · rw [if_neg hn]
    exact ⟨fun _ => hn, fun _ => ⟨_, rfl⟩⟩

/-- What an evaluation of a running session does to the stack. -/
theorem evaluate_running_roots {g : TheGuest} {hd : Handle} (hs : s.lifecycle = .running g hd)
    (code : String) (env : Option Obj) :
    ∃ out s' extra, s.evaluate code env = (out, s') ∧
      s'.world.memory.roots = extra ++ s.world.memory.roots ∧
      extra.length = s.world.memory.leaked (parses (evaluationCalls s code env)) ∧
      (∀ p, out = .error p → p = .capacityOverflow ∧
        ∃ e, Begins code e ∧ PanicsIn s.world.memory env e p) ∧
      ∀ r, out = .ok r → ((∃ v, r = .error (.violation v)) ↔ extra ≠ []) := by
  obtain ⟨w, heval, hw⟩ := evaluate_running hs code env
  obtain ⟨extra, hroots, hlen⟩ := hw.held.roots
  rw [Nat.zero_add] at hlen
  refine ⟨_, _, extra, heval, hroots, hlen, fun p hp => ?_, fun r hr => ?_⟩
  · have hp := checked_eq_error.mp hp
    exact ⟨(answered_eq_error.mp hp).1, exists_panicsIn hp⟩
  · rw [checked_violation_iff hr, ← hlen, Ne, List.length_eq_zero_iff]

/-- An evaluation, a start and a stop of any session end without a release too many. The
evaluation leaves all roots where they are, below as many new ones as it made parses that leaked,
even where the guest panics, which it does only if the first expression asks for too much memory;
if the session runs, its answer is a violation exactly if there is such a root, and otherwise the
stack is the same. A start and a stop leave the stack as it is. -/
theorem evaluate_roots (s : MiniSession) (code : String) (env : Option Obj) :
    (∃ out s' extra, s.evaluate code env = (out, s') ∧
      s'.world.memory.roots = extra ++ s.world.memory.roots ∧
      extra.length =
        (if s.world.memory.leaky then parses (evaluationCalls s code env) else 0) ∧
      (∀ p, out = .error p → p = .capacityOverflow ∧
        ∃ e, Begins code e ∧ PanicsIn s.world.memory env e p) ∧
      (s.state = .running → ∀ r, out = .ok r →
        ((∃ v, r = .error (.violation v)) ↔ extra ≠ []) ∧
        ((∀ v, r ≠ .error (.violation v)) →
          s'.world.memory.roots = s.world.memory.roots))) ∧
    (∃ r s', s.start = (.ok r, s') ∧ s'.world.memory.roots = s.world.memory.roots) ∧
    ∀ fatal, (s.stop fatal).2.world.memory.roots = s.world.memory.roots ∧
      ∀ n, (s.stop fatal).1 ≠ .error (.tooManyUnprotected n) := by
  refine ⟨?_, ?_, stop_roots s⟩
  · rcases evaluate_cases s code env with
      ⟨f, s', hst, heval, hcalls⟩ | ⟨hd, s₁, g, hst, hrun, heval, hcalls⟩
    · refine ⟨_, s', [], heval, hst.roots_eq, by simp [hcalls], nofun, fun hs => ?_⟩
      exact absurd hs hst.state_ne_running
    · obtain ⟨out, s', extra, heval₁, hroots, hlen, hpanic, hiff⟩ :=
        evaluate_running_roots hrun code env
      rw [leaked, ← hcalls, hst.leaky_eq] at hlen
      rw [hst.roots_eq] at hroots
      have hpanic : ∀ p, out = .error p → p = .capacityOverflow ∧
          ∃ e, Begins code e ∧ PanicsIn s.world.memory env e p := by
        simpa only [panicsIn_started hst] using hpanic
      refine ⟨out, s', extra, heval.trans heval₁, hroots, hlen, hpanic, fun _ r hr => ?_⟩
      refine ⟨hiff r hr, fun hno => ?_⟩
      rcases extra with _ | ⟨x, extra⟩
      · exact hroots
      · obtain ⟨v, hv⟩ := (hiff r hr).mpr (List.cons_ne_nil x extra)
        exact absurd hv (hno v)
  · obtain ⟨r, s', hstart, hst⟩ := start_started s
    exact ⟨r, s', hstart, hst.roots_eq⟩

/-- A running session whose guest leaks, with one root. -/
def leakySession : MiniSession where
  source := {}
  lifecycle := .running it ⟨1, .owned⟩
  world := ⟨{ roots := [globalEnv], leaky := true }, bareHost⟩

/-- A failure leaks twice: its own text and the one that explains it. -/
theorem evaluate_roots_leaky :
    ∃ r s' extra, leakySession.evaluate "nope" none = (.ok r, s') ∧
      s'.world.memory.roots = extra ++ [globalEnv] ∧ extra.length = 2 ∧
      ∃ v, r = .error (.violation v) := by
  obtain ⟨⟨out, s', extra, heval, hroots, hlen, -, hrun⟩, -⟩ :=
    evaluate_roots leakySession "nope" none
  have hparses : parses (evaluationCalls leakySession "nope" none) = 2 := by decide +kernel
  have hlen : extra.length = 2 := hlen.trans hparses
  have hanswers : (leakySession.evaluate "nope" none).1.isOk := by decide +kernel
  obtain ⟨r, hr⟩ : ∃ r, out = .ok r := by
    rw [heval] at hanswers
    cases out with
    | ok r => exact ⟨r, rfl⟩
    | error p => cases hanswers
  refine ⟨r, s', extra, hr ▸ heval, hroots, hlen, (hrun rfl r hr).1.mpr ?_⟩
  rintro rfl
  cases hlen

end GuestRuntime.Mini
