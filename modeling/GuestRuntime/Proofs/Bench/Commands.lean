import GuestRuntime.Mini.Bench
import GuestRuntime.Proofs.Mini.Marshal

/-!
Commands on the bench, by what they are made of: a command that is no scope is one step, whose
console text is captured; a scope is its commands, from the state in which it opens, and its end.
-/

namespace GuestRuntime.Mini.Bench

open Dialogue TheGuest Machine

/-- The state in which a scope begins that is opened in `s`. -/
def opened (s : State) (wraps : Bool) : State :=
  { withOutput s s.world.host.output.openCapture.2 with scope := some { wraps } }

/-- What the innermost scope has counted. -/
def counted (s : State) : Int := (s.scope.map Scope.count).getD 0

def answerOf : Shown → Answered
  | .mk a _ _ _ => a

variable {s : State} {c : Command}

/-- What is done with an answer does not touch the memory. -/
theorem memory_orPanic {α : Type} {r : Except Panic α × World Machine}
    {f : α → State → Answered × State} (hf : ∀ a s, (f a s).2.world.memory = s.world.memory) :
    (orPanic r s f).2.world.memory = r.2.memory := by
  obtain ⟨p | a, w⟩ := r
  · rfl
  · exact hf a _

theorem memory_call (e : Entry) (w : World Machine) :
    (w.call it e).2.memory = (Machine.call e w.memory).memory := rfl

/-- To count a root is no call. -/
theorem world_counting (x : Obj) (s : State) : (counting x s).2.world = s.world := by
  unfold counting
  split
  · rfl
  · split <;> rfl

/-- A command that is no scope, its console text being captured. -/
theorem run_single (s : State) (hc : ∀ cs wraps, c ≠ .scope cs wraps) : run c s =
    shown s.world.host.output.openCapture.1
      (single c (withOutput s s.world.host.output.openCapture.2)) := by
  rw [run]
  exact hc

theorem run_scope (cs : List Command) (wraps : Bool) (s : State) : run (.scope cs wraps) s =
    let r := runAll cs (opened s wraps)
    shown s.world.host.output.openCapture.1
      ((closeScope r.1 (counted r.2) r.2).1,
        { (closeScope r.1 (counted r.2) r.2).2 with scope := s.scope }) := by
  rw [run]
  rfl

/-- Marshaling an object that is not there is a panic, and of one that is there an answer. -/
theorem run_marshal (x : Obj) (w : World Machine) :
    (marshal x).run it w = (.error (.dangling x), w) ∨
      ∃ v, w.memory.object? x = some v ∧
        (marshal x).run it w = (.ok (v.marshaled x), ⟨w.memory.marshaling v, w.host⟩) := by
  obtain ⟨m, h⟩ := w
  rcases ho : m.object? x with _ | v
  · have hreply : Machine.call (.kindOf x) m = panic (.dangling x) m :=
      withObject_none (k := fun v => answer v.kind) ho
    refine .inl ?_
    simp only [marshal, Dialogue.call, bind_eq, Dialogue.bind, Dialogue.run, call_of_reply hreply]
    rfl
  · obtain ⟨y, w, hrun, rfl, -, -, rfl⟩ := ends_marshal (h := h) ho
    exact .inr ⟨v, rfl, hrun⟩

/-- An object is made of a first string only, and that is then answered as text. -/
theorem marshaling_cases (m : Machine) (x : Obj) (v : Value) : m.marshaling v = m ∨
    ∃ b t, m.marshaling v = m.push (.chars b) ∧ v.marshaled x = .text t := by
  unfold marshaling
  split
  · next b _ => exact .inr ⟨b, _, rfl, rfl⟩
  · exact .inl rfl

end GuestRuntime.Mini.Bench
