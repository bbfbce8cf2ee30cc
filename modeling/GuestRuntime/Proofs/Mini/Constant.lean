import Mathlib.Data.List.Forall2
import GuestRuntime.Proofs.Mini.Globals
import GuestRuntime.Proofs.Mini.RootStack
import GuestRuntime.Proofs.Syntax.Calling

/-!
Constant expressions. A literal has its value whatever is bound, and so has what is made of literals
by functions that neither print nor look at the state. Evaluating such a code gives the host what it
keeps of the value, and leaves the globals, the last message and the roots as they were.
Main statements: `Expr.Denotes.call` and `IsWritten.evaluate`.
-/

namespace GuestRuntime.Mini

open Dialogue TheGuest Machine

/-- Evaluated in any state the expression has this value, and changes nothing. -/
def Expr.Denotes (e : Expr) (v : Value) : Prop := ∀ s, (eval e).run s = (.ok v, s)

variable {e l r : Expr} {es : List Expr} {v u : Value} {vs : List Value} {f code : String}
  {env : Option Obj} {text : List Char} {s : MiniSession}

theorem Expr.denotes_num (x : Double) : (Expr.num x).Denotes (.reals [x]) := by
  intro s
  rw [eval]
  rfl

theorem Expr.denotes_int (n : Int) : (Expr.int n).Denotes (.ints [n]) := by
  intro s
  rw [eval]
  rfl

theorem Expr.denotes_str (t : String) : (Expr.str t).Denotes (.ofText t) := by
  intro s
  rw [eval]
  rfl

theorem Expr.Denotes.binary {op : Char} {w : Value} (hl : l.Denotes v) (hr : r.Denotes u)
    (hw : arithmetic op v u = .ok w) : (Expr.binary op l r).Denotes w := by
  intro s
  rw [eval, run_bind_of _ (hl s)]
  dsimp only
  rw [run_bind_of _ (hr s)]
  simp only [hw]
  rfl

/-- What goes together one by one goes together as lists. -/
theorem forall₂_map {α β γ : Type} {R : β → γ → Prop} {f : α → β} {g : α → γ}
    (h : ∀ a, R (f a) (g a)) (l : List α) : List.Forall₂ R (l.map f) (l.map g) := by
  rw [List.forall₂_map_left_iff, List.forall₂_map_right_iff, List.forall₂_same]
  intro a _
  exact h a

theorem evalAll_of_denotes (h : List.Forall₂ Expr.Denotes es vs) (s : Scratch) :
    (evalAll es).run s = (.ok vs, s) := by
  induction h with
  | nil =>
    rw [evalAll]
    rfl
  | cons he _ ih =>
    rw [evalAll, run_bind_of _ (he s)]
    dsimp only
    rw [run_bind_of _ ih]
    rfl

/-- A call of a function that does not print and gives the same in every state. -/
theorem Expr.Denotes.call (h : List.Forall₂ Expr.Denotes es vs) (hprint : printed? f vs = none)
    (hv : ∀ s, builtin s f vs = .ok v) : (Expr.call f es).Denotes v := by
  intro s
  rw [eval, run_bind_of _ (evalAll_of_denotes h s)]
  have hget : (get : Eval Scratch).run s = (.ok s, s) := rfl
  simp only [apply, hprint]
  rw [run_bind_of _ hget]
  simp only [hv s]
  rfl

/-- What was written for a tree is a code that begins with it, if it can be sent. -/
theorem IsWritten.begins (h : IsWritten e text) (he : e.IsSendable) :
    Begins (String.ofList text) e := by
  refine ⟨?_, [], ?_⟩
  · rw [String.toList_ofList]
    exact h.isSendable he
  · rw [String.toList_ofList]
    exact h.parse_eq

/-- What an evaluation that gives a value leaves as it was. -/
structure Undisturbed (s s' : MiniSession) : Prop where
  globals : s'.world.memory.globals = s.world.memory.globals
  lastError : s'.world.memory.lastError = s.world.memory.lastError
  roots : s'.world.memory.roots = s.world.memory.roots
  lifecycle : s'.lifecycle = s.lifecycle

/-- On a running session that does not leak, a constant expression is answered with what the host
keeps of its value. -/
theorem evaluate_of_denotes {g : TheGuest} {hd : Handle} (hs : s.lifecycle = .running g hd)
    (hl : s.world.memory.leaky = false) (henv : environment env = globalEnv)
    (hcode : Begins code e) (hv : e.Denotes v) :
    ∃ x s', s.evaluate code env = (.ok (.ok (v.marshaled x)), s') ∧
      s'.world.memory.object? x = some v ∧ Undisturbed s s' := by
  obtain ⟨w, heval, hheld, -, hvis, hstands⟩ := evaluate_running hs code env
  have hleaked (n : Nat) : s.world.memory.leaked n = 0 := by simp [leaked, hl]
  have hout : outcome? s.world code env = some (.ok v,
      ⟨s.world.memory.globals, s.world.memory.lastError, s.world.memory.mode, []⟩) := by
    rw [outcome?_of_begins hcode, outcomeIn, if_pos henv, hv]
  simp only [checked, answered, hout, hleaked, Except.map, if_pos] at heval
  rw [afterCode, hout] at hvis
  obtain ⟨extra, hroots, hlen⟩ := hheld.roots
  rw [hleaked] at hlen
  have hextra : extra = [] := List.eq_nil_of_length_eq_zero hlen
  rw [hextra] at hroots
  refine ⟨_, _, heval, hstands v _ hout, ?_⟩
  exact ⟨congrArg Visible.globals hvis, congrArg Visible.lastError hvis, hroots, rfl⟩

/-- So is what was written for it, if it can be sent. -/
theorem IsWritten.evaluate {g : TheGuest} {hd : Handle} (h : IsWritten e text) (he : e.IsSendable)
    (hv : e.Denotes v) (hs : s.lifecycle = .running g hd) (hl : s.world.memory.leaky = false)
    (henv : environment env = globalEnv) :
    ∃ x s', s.evaluate (String.ofList text) env = (.ok (.ok (v.marshaled x)), s') ∧
      Undisturbed s s' := by
  obtain ⟨x, s', heval, -, hkept⟩ := evaluate_of_denotes hs hl henv (h.begins he) hv
  exact ⟨x, s', heval, hkept⟩

end GuestRuntime.Mini
