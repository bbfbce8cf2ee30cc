import Mathlib.Data.List.Forall2
import GuestRuntime.Proofs.Checked.Cell
import GuestRuntime.Proofs.Mini.Unasked
import GuestRuntime.Proofs.Mini.Visible

/-!
Expressions evaluated in the cell. The machine is taken for a moment wherever a name is looked up or
bound, where a text is printed and where the last message is asked for, and it is given back before
anything else is evaluated:

        x <- f(y) + 1
              look y ─▶ call f ─▶ add, element i of each being i mod its length ─▶ change x

What is left in the cell at every moment is what the evaluation has to show for itself so far. A
vector that is asked for by its length alone may be larger than memory; the evaluation ends there as
it does at a failure. Main statement: `eval_follows`.
-/

namespace GuestRuntime.Checked

open Mini

/-! ### Arithmetic -/

/-- Element by element, as many as the longer has; none if one has none. -/
def recycle (op : Char) (a b : List Double) : Step (List Double) :=
  (List.range (if a.isEmpty ∨ b.isEmpty then 0 else max a.length b.length)).mapM fun i => do
    let x ← index a (← remainder i a.length)
    let y ← index b (← remainder i b.length)
    return realOp op x y

/-- Arithmetic of doubles. -/
def general (op : Char) (l r : Value) : Step (Except EvalError Value) :=
  match l.operands?, r.operands? with
  | some a, some b => return .ok (.reals (← recycle op a b))
  | _, _ => return .error .notNumeric

def arithmetic (op : Char) (l r : Value) : Step (Except EvalError Value) :=
  match l, r with
  | .ints a, .ints b =>
    if op ≠ '/' ∧ a.length = 1 ∧ b.length = 1 then
      return .ok (.ints [integerOp op (← index a 0) (← index b 0)])
    else general op l r
  | _, _ => general op l r

section Arithmetic

variable {α β : Type} {a b : List Double} {l : List α} {i k n : Nat} {op : Char}

theorem mapM_eq {f : α → Step β} {r : List β} (h : List.Forall₂ (fun x y => f x = .ok y) l r) :
    l.mapM f = .ok r := by
  induction h with
  | nil => rfl
  | cons hx _ ih =>
    rw [List.mapM_cons, hx, ih]
    rfl

/-- In copies of a list one behind the other, every element stands as often as there are copies. -/
theorem getElem?_flatten_replicate (hi : i < k * l.length) :
    (List.replicate k l).flatten[i]? = l[i % l.length]? := by
  induction k generalizing i with
  | zero => omega
  | succ k ih =>
    rw [List.replicate_succ, List.flatten_cons, List.getElem?_append]
    split
    · next hlt => rw [Nat.mod_eq_of_lt hlt]
    · next hle =>
      rw [ih (by rw [Nat.succ_mul] at hi; omega), Nat.mod_eq_sub_mod (Nat.le_of_not_lt hle)]

theorem lt_copies (hl : 0 < l.length) (hi : i < n) : i < (n / l.length + 1) * l.length := by
  have := Nat.lt_div_mul_add hl (a := n)
  rw [Nat.succ_mul]
  omega

theorem getElem?_cycled (hl : 0 < l.length) (hi : i < n) :
    (cycled n l)[i]? = l[i % l.length]? := by
  rw [cycled, List.getElem?_take_of_lt hi, getElem?_flatten_replicate (lt_copies hl hi)]

theorem length_cycled (hl : 0 < l.length) : (cycled n l).length = n := by
  rw [cycled, List.length_take, List.length_flatten, List.map_replicate, List.sum_replicate_nat]
  have := lt_copies hl (Nat.lt_succ_self n)
  have := Nat.lt_div_mul_add hl (a := n)
  rw [Nat.succ_mul]
  omega

theorem index_cycled (hl : 0 < l.length) (hi : i < (cycled n l).length) :
    index l (i % l.length) = .ok (cycled n l)[i] := by
  refine index_eq ?_
  rw [← getElem?_cycled hl (length_cycled hl ▸ hi), List.getElem?_eq_getElem hi]

/-- Neither a remainder by zero nor an index outside: the shorter list has an element for every
index of the longer. -/
theorem recycle_eq (op : Char) (a b : List Double) :
    recycle op a b = .ok (Mini.recycle op a b) := by
  unfold recycle Mini.recycle
  rcases Nat.eq_zero_or_pos a.length with ha | ha
  · obtain rfl := List.length_eq_zero_iff.mp ha
    simp [cycled]
  rcases Nat.eq_zero_or_pos b.length with hb | hb
  · obtain rfl := List.length_eq_zero_iff.mp hb
    simp [cycled]
  have hne : ¬ (a.isEmpty = true ∨ b.isEmpty = true) := by
    simp only [List.isEmpty_iff_length_eq_zero]
    omega
  rw [if_neg hne]
  refine mapM_eq (List.forall₂_iff_get.mpr ⟨?_, fun i hi hz => ?_⟩)
  · rw [List.length_range, List.length_zipWith, length_cycled ha, length_cycled hb, Nat.min_self]
  · rw [List.length_zipWith, Nat.lt_min] at hz
    simp only [List.get_eq_getElem, List.getElem_range, List.getElem_zipWith, remainder_eq ha,
      remainder_eq hb, ok_bind, index_cycled ha hz.1, index_cycled hb hz.2, pure_eq_ok]

/-- What arithmetic of doubles gives. -/
def doubles (op : Char) (l r : Value) : Except EvalError Value :=
  match l.operands?, r.operands? with
  | some a, some b => .ok (.reals (Mini.recycle op a b))
  | _, _ => .error .notNumeric

theorem general_eq (op : Char) (l r : Value) : general op l r = .ok (doubles op l r) := by
  unfold general doubles
  cases l.operands? with
  | none => rfl
  | some a =>
    cases r.operands? with
    | none => rfl
    | some b =>
      simp only [recycle_eq, ok_bind]
      rfl

/-- Two integers are computed with as integers, but for division. -/
theorem arithmetic_integers {x y : Int} (hop : op ≠ '/') :
    Mini.arithmetic op (.ints [x]) (.ints [y]) = .ok (.ints [integerOp op x y]) := if_neg hop

/-- Everything else is computed with as doubles. -/
theorem arithmetic_doubles {l r : Value}
    (h : ∀ x y, l = .ints [x] → r = .ints [y] → op = '/') :
    Mini.arithmetic op l r = doubles op l r := by
  unfold Mini.arithmetic
  extract_lets general
  split
  · next x y => exact if_pos (h x y rfl rfl)
  · rfl

theorem arithmetic_eq (op : Char) (l r : Value) :
    arithmetic op l r = .ok (Mini.arithmetic op l r) := by
  unfold arithmetic
  split
  · next a b =>
    by_cases h : op ≠ '/' ∧ a.length = 1 ∧ b.length = 1
    · obtain ⟨hop, ha, hb⟩ := h
      obtain ⟨x, rfl⟩ := List.length_eq_one_iff.mp ha
      obtain ⟨y, rfl⟩ := List.length_eq_one_iff.mp hb
      rw [if_pos ⟨hop, rfl, rfl⟩, arithmetic_integers hop]
      rfl
    · rw [if_neg h, general_eq, arithmetic_doubles]
      rintro x y ⟨⟩ ⟨⟩
      simpa using h
  · next hne =>
    rw [general_eq, arithmetic_doubles]
    exact fun x y hl hr => (hne [x] [y] hl hr).elim

end Arithmetic

/-! ### Evaluation -/

/-- An evaluation step in the cell. -/
abbrev Eval (α : Type) := ExceptT EvalError Act α

def act {α : Type} (x : Act α) : Eval α := ExceptT.lift x

/-- A vector of the length that a first argument asks for, if there can be memory for it, its
elements having so many bytes. -/
def made (size : Nat) (f : Nat → Value) (args : List Value) : Eval Value := do
  let n ← MonadExcept.ofExcept (lengthArgument args)
  if n * size ≤ capacity then return f n else throw .oversized

/-- A call with its arguments evaluated. -/
def apply (name : String) (args : List Value) : Eval Value := do
  if name = "cat" then
    act (writeConsole (" ".intercalate (args.flatMap Value.texts)) 0)
    return .nil
  else if name = "geterrmessage" then
    MonadExcept.ofExcept (← act (look fun m =>
      .ok (builtin ⟨m.globals, m.lastError, m.mode, []⟩ name args)))
  else if name = "raw" then
    made 1 (fun n => .bytes (List.replicate n 0)) args
  else if name = "character" then
    made stringSize (fun n => .strings (List.replicate n [])) args
  else
    MonadExcept.ofExcept (builtin default name args)

mutual

/-- The value of an expression. -/
def eval : Expr → Eval Value
  | .num x => return .reals [x]
  | .int i => return .ints [i]
  | .str s => return .ofText s
  | .lgl b => return .lgls [if b then 1 else 0]
  | .null => return .nil
  | .ident name => do
    match ← act (look fun m => .ok (m.globals.lookup name)) with
    | some v => return v
    | none => throw (.unbound name)
  | .assign name rhs => do
    let v ← eval rhs
    act (change fun m => .ok ((), { m with globals := m.globals.set name v }))
    return v
  | .neg e => do
    let v ← eval e
    match v.numbers? with
    | some xs => return .reals (xs.map Neg.neg)
    | none => throw .notNegatable
  | .binary op l r => do
    let l ← eval l
    let r ← eval r
    MonadExcept.ofExcept (← act (Act.step (arithmetic op l r)))
  | .call name args => do
    let args ← evalAll args
    apply name args

/-- The values of arguments, up to the first that fails. -/
def evalAll : List Expr → Eval (List Value)
  | [] => return []
  | e :: r => do
    let v ← eval e
    let vs ← evalAll r
    return v :: vs

end

section Follows

variable {α β : Type} {w : World Machine} {s : Scratch}

/-- What an evaluation starts from tells what the machine does. -/
structure Tells (w : World Machine) (s : Scratch) : Prop where
  lastError : s.lastError = w.memory.lastError
  mode : s.mode = w.memory.mode

/-- An evaluation in the cell does there what the plain one says, and nothing is trapped. -/
def Follows (c : Eval α) (p : Mini.Eval α) : Prop :=
  ∀ w s, Tells w s → Tells w (p.run s).2 ∧
    c.run (free (afterValue w s)) = .ok ((p.run s).1, free (afterValue w (p.run s).2))

variable {c : Eval α} {p : Mini.Eval α}

theorem follows_pure (a : α) : Follows (pure a) (pure a) := fun _ _ h => ⟨h, rfl⟩

theorem follows_throw (why : EvalError) : Follows (throw why : Eval α) (throw why) :=
  fun _ _ h => ⟨h, rfl⟩

/-- An outcome that was found already. -/
theorem follows_ofExcept {x : Except EvalError α} (hok : ∀ a, x = .ok a → p = pure a)
    (herror : ∀ why, x = .error why → p = throw why) : Follows (MonadExcept.ofExcept x) p := by
  cases x with
  | ok a =>
    rw [hok a rfl]
    exact follows_pure a
  | error why =>
    rw [herror why rfl]
    exact follows_throw why

theorem Follows.bind {f : α → Eval β} {g : α → Mini.Eval β} (h : Follows c p)
    (hf : ∀ a, Follows (f a) (g a)) : Follows (c >>= f) (p >>= g) := by
  intro w s hs
  obtain ⟨hs', hc⟩ := h w s hs
  have hrun : (p >>= g).run s = (match p.run s with
      | (.ok a, s') => (g a).run s'
      | (.error why, s') => (.error why, s')) := by
    rw [ExceptT.run_bind]
    change StateT.bind p.run _ s = _
    simp only [StateT.bind]
    rcases p.run s with ⟨why | a, s'⟩ <;> rfl
  rw [hrun, ExceptT.run_bind, act_bind_eq hc]
  generalize (p.run s : Except EvalError α × Scratch) = q at hs' ⊢
  rcases q with ⟨why | a, s'⟩
  · exact ⟨hs', rfl⟩
  · exact hf a w s' hs'

theorem act_run_eq {x : Act α} {v v' : World Cell} {a : α} (h : x v = .ok (a, v')) :
    (act x).run v = .ok (.ok a, v') := by
  change (x v >>= fun p => (Except.ok (Except.ok p.1, p.2) : Step (Except EvalError α × _))) = _
  rw [h]
  rfl

theorem eval_bind_eq {f : α → Eval β} {v v' : World Cell} {a : α}
    (h : c.run v = .ok (.ok a, v')) : (c >>= f).run v = (f a).run v' := by
  rw [ExceptT.run_bind, act_bind_eq h]

/-- A look at the machine finds what the evaluation has come to. -/
theorem Follows.look_bind {g : Machine → β} {f : β → Eval α} {k : Scratch → Mini.Eval α}
    (h : ∀ w s, Tells w s → Follows (f (g (afterValue w s).memory)) (k s)) :
    Follows (act (look fun m => .ok (g m)) >>= f) (get >>= k) := by
  intro w s hs
  have hlook : (act (look fun m => .ok (g m)) >>= f).run (free (afterValue w s)) =
      (f (g (afterValue w s).memory)).run (free (afterValue w s)) :=
    eval_bind_eq (act_run_eq (look_eq rfl))
  rw [hlook]
  exact h w s hs w s hs

/-- A step that needs no machine, and gives what it gives. -/
theorem Follows.act_bind {x : Act β} {b : β} {f : β → Eval α} (hx : ∀ v, x v = .ok (b, v))
    (h : Follows (f b) p) : Follows (act x >>= f) p := by
  intro w s hs
  rw [eval_bind_eq (act_run_eq (hx _))]
  exact h w s hs

/-- A plain evaluation may ask for what it has come to. -/
theorem Follows.get_bind {k : Scratch → Mini.Eval α} (h : ∀ s, Follows c (k s)) :
    Follows c (get >>= k) := fun w s hs => h s w s hs

/-- A change of what is in the cell is one of what the evaluation has to show. -/
theorem follows_change {x : Act Unit} {k : Scratch → Scratch}
    (hk : ∀ w s, Tells w s → Tells w (k s) ∧
      x (free (afterValue w s)) = .ok ((), free (afterValue w (k s)))) :
    Follows (act x) (modify k) := by
  intro w s hs
  obtain ⟨hs', hx⟩ := hk w s hs
  exact ⟨hs', act_run_eq hx⟩

theorem follows_print (text : String) :
    Follows (act (writeConsole text 0))
      (modify fun s => { s with printed := s.printed ++ [text] }) := by
  refine follows_change fun w s hs => ⟨⟨hs.lastError, hs.mode⟩, ?_⟩
  have hprinting : (afterValue w s).memory.printing 0 text = w.memory.printing 0 text := rfl
  rw [writeConsole_eq, hprinting]
  simp only [afterValue, Host.callbacks, List.flatMap_append, List.flatMap_singleton,
    List.foldl_append]

theorem follows_assign (name : String) (v : Value) :
    Follows (act (change fun m => .ok ((), { m with globals := m.globals.set name v })))
      (modify fun s => { s with globals := s.globals.set name v }) :=
  follows_change fun _ _ hs => ⟨⟨hs.lastError, hs.mode⟩, change_eq rfl⟩

/-- The last message is what the machine tells; every other function needs its arguments only. -/
theorem builtin_tells {w : World Machine} {s : Scratch} (hs : Tells w s) (name : String)
    (args : List Value) :
    builtin ⟨(afterValue w s).memory.globals, (afterValue w s).memory.lastError,
      (afterValue w s).memory.mode, []⟩ name args = builtin s name args := by
  obtain ⟨globals, lastError, mode, printed⟩ := s
  obtain ⟨rfl, rfl⟩ := hs
  rfl

/-- A vector is too large in the cell if it is outside. -/
theorem made_follows {p : Mini.Eval Value} {size : Nat} {f : Nat → Value} {args : List Value}
    (hok : ∀ n, allocated size args = .ok n → p = pure (f n))
    (herror : ∀ why, allocated size args = .error why → p = throw why) :
    Follows (made size f args) p := by
  unfold made
  cases hn : lengthArgument args with
  | error why =>
    rw [herror why (allocated_of_error hn)]
    exact follows_throw why
  | ok n =>
    have halloc : allocated size args = _ := allocated_of_ok hn
    show Follows (if n * size ≤ capacity then pure (f n) else throw .oversized) p
    by_cases hfits : n * size ≤ capacity
    · rw [if_pos hfits, hok n (halloc.trans (if_pos hfits))]
      exact follows_pure (f n)
    · rw [if_neg hfits, herror .oversized (halloc.trans (if_neg hfits))]
      exact follows_throw .oversized

theorem apply_follows (name : String) (args : List Value) :
    Follows (apply name args) (Mini.apply name args) := by
  unfold apply Mini.apply printed?
  by_cases hcat : name = "cat"
  · subst hcat
    exact (follows_print _).bind fun _ => .get_bind fun s => follows_pure _
  rw [if_neg hcat, if_neg hcat]
  by_cases hask : name = "geterrmessage"
  · rw [if_pos hask]
    refine .look_bind fun w s hs => ?_
    rw [builtin_tells hs]
    exact follows_ofExcept (fun v hv => by rw [hv]) fun why hwhy => by rw [hwhy]
  rw [if_neg hask]
  refine .get_bind fun s => ?_
  by_cases hraw : name = "raw"
  · subst hraw
    exact made_follows (fun n hn => by rw [builtin, hn]; rfl) fun why hwhy => by
      rw [builtin, hwhy]; rfl
  rw [if_neg hraw]
  by_cases hcharacter : name = "character"
  · subst hcharacter
    exact made_follows (fun n hn => by rw [builtin, hn]; rfl) fun why hwhy => by
      rw [builtin, hwhy]; rfl
  rw [if_neg hcharacter, builtin_congr hask default s]
  exact follows_ofExcept (fun v hv => by rw [hv]) fun why hwhy => by rw [hwhy]

mutual

/-- Whatever an expression is, its evaluation in the cell is never trapped, and does what the plain
one says. -/
theorem eval_follows : (e : Expr) → Follows (eval e) (Mini.eval e)
  | .num x => follows_pure (Value.reals [x])
  | .int i => follows_pure (Value.ints [i])
  | .str s => follows_pure (Value.ofText s)
  | .lgl b => follows_pure (Value.lgls [if b then 1 else 0])
  | .null => follows_pure Value.nil
  | .ident name => by
    rw [eval, Mini.eval]
    refine .look_bind fun w s _ => ?_
    change Follows (match s.globals.lookup name with
      | some v => pure v
      | none => throw (.unbound name)) _
    cases s.globals.lookup name with
    | some v => exact follows_pure v
    | none => exact follows_throw _
  | .assign name rhs => by
    rw [eval, Mini.eval]
    exact (eval_follows rhs).bind fun v => (follows_assign name v).bind fun _ => follows_pure v
  | .neg e => by
    rw [eval, Mini.eval]
    refine (eval_follows e).bind fun v => ?_
    cases v.numbers? with
    | some xs => exact follows_pure _
    | none => exact follows_throw _
  | .binary op l r => by
    rw [eval, Mini.eval]
    refine (eval_follows l).bind fun l => (eval_follows r).bind fun r => ?_
    refine .act_bind (fun v => step_eq (arithmetic_eq op l r)) ?_
    exact follows_ofExcept (fun v hv => by rw [hv]) fun why hwhy => by rw [hwhy]
  | .call name args => by
    rw [eval, Mini.eval]
    exact (evalAll_follows args).bind fun args => apply_follows name args

theorem evalAll_follows : (args : List Expr) → Follows (evalAll args) (Mini.evalAll args)
  | [] => follows_pure []
  | e :: args => by
    rw [evalAll, Mini.evalAll]
    exact (eval_follows e).bind fun v =>
      (evalAll_follows args).bind fun vs => follows_pure (v :: vs)

end

end Follows

end GuestRuntime.Checked
