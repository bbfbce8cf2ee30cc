import GuestRuntime.Mini.Eval

/-!
The last message of a guest is told to whoever asks for it, by one function only; an expression
that does not call it evaluates the same whatever the last message is:

        g, message  ── e ──▶  value, g', message
        g, message' ── e ──▶  value, g', message'

Main statement: `unasked_eval`.
-/

namespace GuestRuntime.Mini

/-- An expression in which a function is called nowhere. -/
inductive Expr.Avoids (f : String) : Expr → Prop
  | num (x : Double) : Avoids f (.num x)
  | int (n : Int) : Avoids f (.int n)
  | str (t : String) : Avoids f (.str t)
  | lgl (b : Bool) : Avoids f (.lgl b)
  | null : Avoids f .null
  | ident (x : String) : Avoids f (.ident x)
  | assign {e} (x : String) (he : Avoids f e) : Avoids f (.assign x e)
  | neg {e} (he : Avoids f e) : Avoids f (.neg e)
  | binary {l e} (c : Char) (hl : Avoids f l) (he : Avoids f e) : Avoids f (.binary c l e)
  | call {g args} (hg : g ≠ f) (hargs : ∀ a ∈ args, Avoids f a) : Avoids f (.call g args)

/-- The same with another last message. -/
def Scratch.telling (s : Scratch) (message : String) : Scratch := { s with lastError := message }

variable {α β : Type} {c : Eval α}

/-- A computation to which the last message is nothing. -/
def Unasked (c : Eval α) : Prop :=
  ∀ s message, c.run (s.telling message) = ((c.run s).1, (c.run s).2.telling message)

theorem unasked_pure (a : α) : Unasked (pure a : Eval α) := fun _ _ => rfl

theorem unasked_throw (why : EvalError) : Unasked (throw why : Eval α) := fun _ _ => rfl

theorem unasked_modify {f : Scratch → Scratch}
    (hf : ∀ s message, f (s.telling message) = (f s).telling message) :
    Unasked (modify f : Eval PUnit) :=
  fun s message => congrArg (Prod.mk (Except.ok ())) (hf s message)

/-- What is looked up must not be the message. -/
theorem unasked_get_bind {f : Scratch → Eval α} (hf : ∀ s message, f (s.telling message) = f s)
    (h : ∀ s, Unasked (f s)) : Unasked (get >>= f) := by
  intro s message
  change (f (s.telling message)).run (s.telling message) = _
  rw [hf]
  exact h s s message

theorem Unasked.bind {f : α → Eval β} (h : Unasked c) (hf : ∀ a, Unasked (f a)) :
    Unasked (c >>= f) := by
  intro s message
  rw [ExceptT.run_bind]
  change StateT.bind c.run _ (s.telling message) = _
  simp only [StateT.bind, h s message]
  change _ = ((StateT.bind c.run _ s).1, (StateT.bind c.run _ s).2.telling message)
  simp only [StateT.bind]
  rcases c.run s with ⟨why | a, t⟩
  · rfl
  · exact hf a t message

/-- Only one function depends on anything but its arguments. -/
theorem builtin_congr {f : String} (hf : f ≠ "geterrmessage") (s s' : Scratch)
    (args : List Value) : builtin s f args = builtin s' f args := by
  unfold builtin
  split
  case h_12 => exact absurd rfl hf
  all_goals rfl

theorem unasked_apply {f : String} (hf : f ≠ "geterrmessage") (args : List Value) :
    Unasked (apply f args) := by
  unfold apply
  cases printed? f args
  all_goals dsimp only
  case' some text => refine (unasked_modify fun _ _ => rfl).bind fun _ => ?_
  all_goals
    refine unasked_get_bind (fun s message => ?_) fun s => ?_
    · rw [builtin_congr hf]
    · cases builtin s f args with
      | ok v => exact unasked_pure v
      | error why => exact unasked_throw why

theorem unasked_evalAll {args : List Expr} (h : ∀ a ∈ args, Unasked (eval a)) :
    Unasked (evalAll args) := by
  induction args with
  | nil =>
    rw [evalAll]
    exact unasked_pure []
  | cons a args ih =>
    rw [evalAll]
    refine (h a List.mem_cons_self).bind fun v => ?_
    exact (ih fun b hb => h b (List.mem_cons_of_mem a hb)).bind fun vs => unasked_pure (v :: vs)

/-- An expression that does not ask for the last message evaluates the same whatever it is. -/
theorem unasked_eval {e : Expr} (h : e.Avoids "geterrmessage") : Unasked (eval e) := by
  induction h with
  | num | int | str | lgl | null => rw [eval]; exact unasked_pure _
  | ident x =>
    rw [eval]
    refine unasked_get_bind (fun _ _ => rfl) fun s => ?_
    cases List.lookup x s.globals with
    | some v => exact unasked_pure v
    | none => exact unasked_throw _
  | assign x _ ih =>
    rw [eval]
    exact ih.bind fun v => (unasked_modify fun _ _ => rfl).bind fun _ => unasked_pure v
  | neg _ ih =>
    rw [eval]
    refine ih.bind fun v => ?_
    cases v.numbers? with
    | some xs => exact unasked_pure _
    | none => exact unasked_throw _
  | binary c _ _ ihl ihe =>
    rw [eval]
    refine ihl.bind fun l => ihe.bind fun r => ?_
    cases arithmetic c l r with
    | ok v => exact unasked_pure v
    | error why => exact unasked_throw why
  | call hg _ ih =>
    rw [eval]
    exact (unasked_evalAll ih).bind fun args => unasked_apply hg args

end GuestRuntime.Mini
