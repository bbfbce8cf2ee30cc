import GuestRuntime.Proofs.Console.View
import GuestRuntime.Proofs.Mini.Calls

/-!
What evaluations can see of each other. Two worlds that look the same give an expression the same
outcome, and look the same after it; objects, roots and the journal play no part.
-/

namespace GuestRuntime.Mini

open Machine

/-- All of a world that an evaluation depends on and can change, apart from objects. -/
structure Visible where
  globals : Globals
  lastError : String
  mode : MessageMode
  wired : Bool
  console : Output

def visible (w : World Machine) : Visible :=
  ⟨w.memory.globals, w.memory.lastError, w.memory.mode, w.memory.wired, w.host.console⟩

/-- The world once an expression has a value. -/
def afterValue (w : World Machine) (s : Scratch) : World Machine :=
  ⟨w.memory.leave s.globals w.memory.lastError,
    w.host.callbacks (s.printed.flatMap (w.memory.printing 0))⟩

/-- The world once an expression has failed, before that is explained. -/
def afterFailure (w : World Machine) (why : EvalError) (s : Scratch) : World Machine :=
  ⟨w.memory.leave s.globals (errorText why),
    w.host.callbacks
      (s.printed.flatMap (w.memory.printing 0) ++ w.memory.printing 1 (errorText why))⟩

variable {w w' : World Machine}

theorem printing_of_visible (hw : visible w = visible w') :
    w.memory.printing = w'.memory.printing := by
  have hwired : w.memory.wired = w'.memory.wired := congrArg Visible.wired hw
  funext kind text
  rw [printing, printing, hwired]

theorem outcomeIn_of_visible (hw : visible w = visible w') (x : Obj) (e : Expr) :
    w.memory.outcomeIn x e = w'.memory.outcomeIn x e := by
  obtain ⟨hg, hl, hm, -, -⟩ := Visible.mk.inj hw
  rw [outcomeIn, outcomeIn, hg, hl, hm]

theorem visible_afterValue (hw : visible w = visible w') (s : Scratch) :
    visible (afterValue w s) = visible (afterValue w' s) := by
  obtain ⟨-, hl, hm, hwired, hc⟩ := Visible.mk.inj hw
  simp only [visible, afterValue, Visible.mk.injEq, printing_of_visible hw]
  exact ⟨rfl, hl, hm, hwired, Host.console_callbacks _ hc⟩

theorem visible_afterFailure (hw : visible w = visible w') (why : EvalError) (s : Scratch) :
    visible (afterFailure w why s) = visible (afterFailure w' why s) := by
  obtain ⟨-, -, hm, hwired, hc⟩ := Visible.mk.inj hw
  simp only [visible, afterFailure, Visible.mk.injEq, printing_of_visible hw]
  exact ⟨rfl, rfl, hm, hwired, Host.console_callbacks _ hc⟩

end GuestRuntime.Mini
