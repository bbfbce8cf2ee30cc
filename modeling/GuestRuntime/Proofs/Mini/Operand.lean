import GuestRuntime.Proofs.Binding
import GuestRuntime.Proofs.Mini.Plain

/-!
Evaluation by the shape of the expression. An operand leaves everything as it is, except for what it
prints, whether it has a value or fails; an assignment evaluates its operand and then binds one
name. From plain globals come plain values and messages that can be sent. Main statements:
`calm_eval` and `eval_isShaped`.
-/

namespace GuestRuntime.Mini

open Terminated

variable {α β : Type} {s : Scratch} {g : Globals} {name : String} {v : Value} {e : Expr}

/-! ### Globals -/

/-- No string that is bound has a zero. -/
def Globals.IsPlain (g : Globals) : Prop := ∀ b ∈ g, b.2.IsPlain

theorem Globals.IsPlain.lookup (hg : g.IsPlain) (h : List.lookup name g = some v) : v.IsPlain := by
  obtain ⟨l, r, rfl, -⟩ := List.lookup_eq_some_iff.mp h
  exact hg (name, v) (by simp)

theorem Globals.IsPlain.set (hg : g.IsPlain) (hv : v.IsPlain) : (g.set name v).IsPlain := by
  intro b hb
  rcases List.mem_cons.mp hb with rfl | hb
  · exact hv
  · exact hg b (List.mem_filter.mp hb).1

theorem Globals.lookup_set_self : List.lookup name (g.set name v) = some v := List.lookup_cons_self

/-- A binding leaves those of other names alone. -/
theorem Globals.lookup_set_of_ne {other : String} (h : other ≠ name) :
    List.lookup other (g.set name v) = List.lookup other g := lookup_rebind_of_ne h

/-! ### Calm computations -/

/-- From `s` the computation changes nothing but what is printed, and `Q` is true of its result. -/
def Calm (c : Eval α) (s : Scratch) (Q : Except EvalError α → Prop) : Prop :=
  ∃ r printed, c.run s = (r, { s with printed }) ∧ Q r

section

variable {P Q : Except EvalError α → Prop} {c : Eval α}

theorem calm_pure {a : α} (h : Q (.ok a)) : Calm (pure a) s Q := ⟨_, s.printed, rfl, h⟩

theorem calm_throw {why : EvalError} (h : Q (.error why)) : Calm (throw why) s Q :=
  ⟨_, s.printed, rfl, h⟩

theorem calm_get_bind {f : Scratch → Eval α} (h : Calm (f s) s Q) : Calm (get >>= f) s Q := h

/-- One computation after another, once the first has run. -/
theorem run_bind_of {t : Scratch} {r : Except EvalError α} (f : α → Eval β)
    (hr : c.run s = (r, t)) : (c >>= f).run s =
      match r with
      | .ok a => (f a).run t
      | .error why => (.error why, t) := by
  rw [ExceptT.run_bind]
  change StateT.bind c.run _ s = _
  simp only [StateT.bind, hr]
  cases r <;> rfl

theorem Calm.bind {f : α → Eval β} {Q : Except EvalError β → Prop} (h : Calm c s P)
    (ha : ∀ a printed, P (.ok a) → Calm (f a) { s with printed } Q)
    (he : ∀ why, P (.error why) → Q (.error why)) : Calm (c >>= f) s Q := by
  obtain ⟨r, printed, hr, hP⟩ := h
  have hrun := run_bind_of f hr
  cases r with
  | ok a =>
    obtain ⟨r', printed', hr', hQ⟩ := ha a printed hP
    exact ⟨r', printed', hrun.trans hr', hQ⟩
  | error why => exact ⟨_, printed, hrun, he why hP⟩

end

/-! ### Operands -/

variable {args : List Value}

/-- What a function gives of arguments that are evaluated. -/
theorem calm_builtin (hname : Token.IsWord name) (s : Scratch) :
    Calm (do match builtin (← get) name args with
      | .ok v => return v
      | .error why => throw why) s
      fun r => (∀ v ∈ args, v.IsPlain) → IsDecent Value.IsPlain r := by
  refine calm_get_bind ?_
  have hdecent : (∀ v ∈ args, v.IsPlain) → IsDecent Value.IsPlain (builtin s name args) :=
    builtin_isDecent s hname
  generalize builtin s name args = r at hdecent
  cases r with
  | ok v => exact calm_pure hdecent
  | error why => exact calm_throw hdecent

/-- A call, its arguments being evaluated, only prints. -/
theorem calm_apply (hname : Token.IsWord name) :
    Calm (apply name args) s fun r => (∀ v ∈ args, v.IsPlain) → IsDecent Value.IsPlain r := by
  unfold apply
  cases printed? name args with
  | none => exact calm_builtin hname s
  | some text => exact calm_builtin hname { s with printed := s.printed ++ [text] }

theorem calm_evalAll {args : List Expr}
    (h : ∀ a ∈ args, ∀ s, Calm (eval a) s fun r => s.globals.IsPlain → IsDecent Value.IsPlain r)
    (s : Scratch) : Calm (evalAll args) s fun r =>
      s.globals.IsPlain → IsDecent (∀ v ∈ ·, v.IsPlain) r := by
  induction args generalizing s with
  | nil =>
    rw [evalAll]
    exact calm_pure fun _ => by simp [IsDecent]
  | cons a args ih =>
    rw [evalAll]
    refine (h a List.mem_cons_self s).bind (fun v printed hv => ?_) fun why hwhy => hwhy
    refine (ih (fun b hb => h b (List.mem_cons_of_mem _ hb)) _).bind (fun vs printed hvs => ?_)
      fun why hwhy => hwhy
    exact calm_pure fun hg => List.forall_mem_cons.mpr ⟨hv hg, hvs hg⟩

/-- An operand changes nothing but what is printed. -/
theorem calm_eval (h : e.IsOperand) (s : Scratch) :
    Calm (eval e) s fun r => s.globals.IsPlain → IsDecent Value.IsPlain r := by
  induction h generalizing s with
  | num | int | lgl | null => rw [eval]; exact calm_pure fun _ => trivial
  | str t => rw [eval]; exact calm_pure fun _ => isPlain_ofTexts [t]
  | @ident name hname =>
    rw [eval]
    refine calm_get_bind ?_
    cases hv : List.lookup name s.globals with
    | some v => exact calm_pure fun hg => hg.lookup hv
    | none =>
      refine calm_throw fun _ => ?_
      exact isSendable_append (isSendable_append (by decide) hname.isSendable) (by decide)
  | neg _ ih =>
    rw [eval]
    refine (ih s).bind (fun v printed hv => ?_) fun why hwhy => hwhy
    cases v.numbers? with
    | some l => exact calm_pure fun _ => trivial
    | none => exact calm_throw fun _ => (by decide : IsSendable EvalError.notNegatable.message)
  | binary op _ _ ihl ihr =>
    rw [eval]
    refine (ihl s).bind (fun l printed hl => ?_) fun why hwhy => hwhy
    refine (ihr _).bind (fun r printed hr => ?_) fun why hwhy => hwhy
    have hdecent := arithmetic_isDecent op l r
    generalize arithmetic op l r = r at hdecent
    cases r with
    | ok v => exact calm_pure fun _ => hdecent
    | error why => exact calm_throw fun _ => hdecent
  | call hname _ ih =>
    rw [eval]
    refine (calm_evalAll ih s).bind (fun vs printed hvs => ?_) fun why hwhy => hwhy
    obtain ⟨r, printed', hr, hdecent⟩ := calm_apply hname
    exact ⟨r, printed', hr, fun hg => hdecent (hvs hg)⟩

/-- What the evaluation of an expression of a program leaves in the globals: what was there, or one
name bound to the value. -/
inductive Leaves (e : Expr) (g : Globals) : Except EvalError Value → Globals → Prop
  | same {r} : Leaves e g r g
  | bound {name rhs v} (he : e = .assign name rhs) : Leaves e g (.ok v) (g.set name v)

theorem eval_isShaped (h : e.IsShaped) (s : Scratch) :
    ∃ r t, (eval e).run s = (r, t) ∧ Leaves e s.globals r t.globals ∧
      (s.globals.IsPlain → IsDecent Value.IsPlain r ∧ t.globals.IsPlain) := by
  cases h with
  | operand h =>
    obtain ⟨r, printed, hr, hdecent⟩ := calm_eval h s
    exact ⟨r, _, hr, .same, fun hg => ⟨hdecent hg, hg⟩⟩
  | @assign rhs name h =>
    obtain ⟨r, printed, hr, hdecent⟩ := calm_eval h s
    cases r with
    | ok v =>
      refine ⟨.ok v, { s with globals := s.globals.set name v, printed }, ?_, .bound rfl, ?_⟩
      · rw [eval]
        exact run_bind_of _ hr
      · exact fun hg => ⟨hdecent hg, hg.set (hdecent hg)⟩
    | error why =>
      refine ⟨.error why, { s with printed }, ?_, .same, fun hg => ⟨hdecent hg, hg⟩⟩
      rw [eval]
      exact run_bind_of _ hr

/-- The same of an evaluation in an environment. -/
theorem outcomeIn_isShaped {m : Machine} {x : Obj} {r : Except EvalError Value} {t : Scratch}
    (h : e.IsShaped) (hr : m.outcomeIn x e = (r, t)) :
    Leaves e m.globals r t.globals ∧
      (m.globals.IsPlain → IsDecent Value.IsPlain r ∧ t.globals.IsPlain) := by
  unfold Machine.outcomeIn at hr
  split at hr
  · obtain ⟨r', t', hrun, hleaves, hplain⟩ := eval_isShaped h ⟨m.globals, m.lastError, m.mode, []⟩
    obtain ⟨rfl, rfl⟩ := Prod.mk.inj (hrun.symm.trans hr)
    exact ⟨hleaves, hplain⟩
  · cases hr
    exact ⟨.same, fun hg => ⟨(by decide : IsSendable EvalError.notEnvironment.message), hg⟩⟩

end GuestRuntime.Mini
