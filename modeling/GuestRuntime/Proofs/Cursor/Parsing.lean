import Mathlib.Data.List.DropRight
import GuestRuntime.Proofs.Cursor.Reader
import GuestRuntime.Proofs.Syntax.Program

/-!
Expressions read by functions that call each other, with one position for all of them. A level of
the grammar is a function; the loops for operators and arguments stand inside them:

        sum ──▶ product ──▶ unary ──▶ primary ──( token taken )──▶ sum
         ↺ + -    ↺ * /      ↺ -       ↺ ,

Once around the calls takes a token, so four calls for each token left are as deep as they get, and
every loop takes a token in each round. So with that depth, and more rounds than tokens left,
neither is ever used up: a function that succeeds has moved the position, one that fails has not
moved it back, both leave it in the list, and both do what the rules of the grammar do. Main
statements: `level_follows`, `statement_follows` and `program_concludes`.
-/

namespace GuestRuntime.Cursor

open Mini
open Checked (of_drop_eq_cons of_drop_eq_nil of_getElem?_eq)

/-- The functions that read operands. -/
inductive Level
  | sum
  | product
  | unary
  | primary

def Level.rule : Level → Rule
  | sum => .sum
  | product => .product
  | unary => .unary
  | primary => .primary

/-- How deep the calls of a function nest, with so many tokens left. -/
def Level.depth (left : Nat) : Level → Nat
  | sum => 4 * left + 4
  | product => 4 * left + 3
  | unary => 4 * left + 2
  | primary => 4 * left + 1

section Definitions

variable (ts : List Token) (rounds : Nat)

/-- The token at the position, which moves behind it. -/
def next : Reader Token := do
  match ← peek ts with
  | some t => do
    advance
    return t
  | none => refuse .incomplete

def skip : Reader Unit := skipWhile ts (· = .newline) rounds

/-- The closing parenthesis must come. -/
def close : Reader Unit := do
  skip ts rounds
  if (← next ts) = .op ')' then return () else refuse .error

/-- Further operands, while one of two operators comes. -/
def operators (a b : Char) (operand : Reader Expr) : Nat → Expr → Reader Expr
  | 0, _ => throw .exhausted
  | n + 1, lhs => do
    match ← peek ts with
    | some (.op c) =>
      if c = a ∨ c = b then do
        advance
        skip ts rounds
        let rhs ← operand
        operators a b operand n (.binary c lhs rhs)
      else return lhs
    | _ => return lhs

/-- Further arguments, until the parenthesis closes. -/
def arguments (operand : Reader Expr) (name : String) : Nat → List Expr → Reader Expr
  | 0, _ => throw .exhausted
  | n + 1, es => do
    skip ts rounds
    let e ← operand
    skip ts rounds
    let t ← next ts
    if t = .op ',' then arguments operand name n (es ++ [e])
    else if t = .op ')' then return .call name (es ++ [e])
    else refuse .error

/-- One function, with `call` for those that it calls. -/
def expand (call : Level → Reader Expr) : Level → Reader Expr
  | .sum => do
    let lhs ← call .product
    operators ts rounds '+' '-' (call .product) rounds lhs
  | .product => do
    let lhs ← call .unary
    operators ts rounds '*' '/' (call .unary) rounds lhs
  | .unary => do
    if (← peek ts) = some (.op '-') then do
      advance
      let e ← call .unary
      return .neg e
    else call .primary
  | .primary => do
    match ← next ts with
    | .num x => return .num x
    | .int n => return .int n
    | .str s => return .str s
    | .op c =>
      if c = '(' then do
        skip ts rounds
        let e ← call .sum
        close ts rounds
        return e
      else refuse .error
    | .ident name =>
      if (← peek ts) = some (.op '(') then do
        advance
        skip ts rounds
        if (← peek ts) = some (.op ')') then do
          advance
          return .call name []
        else arguments ts rounds (call .sum) name rounds []
      else return .ofName name
    | _ => refuse .error

/-- A function whose calls nest no deeper than the number. -/
def level : Nat → Level → Reader Expr
  | 0, _ => throw .exhausted
  | d + 1, l => expand ts rounds (level d) l

def statement : Nat → Reader Expr
  | 0 => throw .exhausted
  | d + 1 => do
    let i ← get
    match ts[i]?, ts[i + 1]? with
    | some (.ident name), some .assign => do
      advance
      advance
      skip ts rounds
      let e ← level ts rounds d .sum
      return .assign name e
    | _, _ => level ts rounds d .sum

/-- Further statements, until the tokens end. -/
def program (d : Nat) : Nat → List Expr → Reader (List Expr)
  | 0, _ => throw .exhausted
  | n + 1, es => do
    skip ts rounds
    if (← peek ts) = none then return es
    else do
      let e ← statement ts rounds d
      match ← peek ts with
      | none | some .newline => program d n (es ++ [e])
      | some _ => refuse .error

end Definitions

/-- From `i` a function ends: with an expression and a position behind `i`, or with a failure and a
position that is not before it. Either is in the list, and it is what is read of the tokens. -/
inductive Follows (ts : List Token) (i : Nat) :
    EStateM.Result Halt Nat Expr → Reading Expr → Prop
  | ok {e j} (hij : i < j) (hj : j ≤ ts.length) : Follows ts i (.ok e j) (.ok e (ts.drop j))
  | fail {why j} (hij : i ≤ j) (hj : j ≤ ts.length) :
      Follows ts i (.error (.failed why) j) (.fail why (ts.drop j))

variable {ts r : List Token} {t : Token} {s i j d n rounds : Nat} {e lhs : Expr} {l : Level}
  {call : Level → Reader Expr}

theorem Level.depth_mono (l : Level) {k left : Nat} (h : k ≤ left) : l.depth k ≤ l.depth left := by
  cases l <;> simp only [Level.depth] <;> omega

theorem Level.depth_le (l : Level) {k left : Nat} (h : k < left) : l.depth k ≤ 4 * left := by
  cases l <;> simp only [Level.depth] <;> omega

theorem Level.lt_depth (l : Level) (left : Nat) : 4 * left < l.depth left := by
  cases l <;> simp only [Level.depth] <;> omega

/-! ### Tokens -/

theorem run_next (hd : ts.drop i = t :: r) : (next ts).run i = .ok t (i + 1) := by
  rw [next, run_bind_ok run_peek, (of_drop_eq_cons hd).2.1]
  rfl

theorem run_next_end (hd : ts.drop i = []) : (next ts).run i = .error (.failed .incomplete) i := by
  rw [next, run_bind_ok run_peek, (of_drop_eq_nil hd).2]
  rfl

theorem exists_skip (hi : i ≤ ts.length) {n : Nat} (hr : ts.length - i < n) :
    ∃ j, (skip ts n).run i = .ok () j ∧ i ≤ j ∧ j ≤ ts.length ∧
      ts.drop j = skipNewlines (ts.drop i) :=
  exists_skipWhile hi hr

/-- The token behind the newlines, or the end of the list there. -/
theorem skip_next (hi : i ≤ ts.length) {n : Nat} (hr : ts.length - i < n) {α : Type}
    (f : Token → Reader α) :
    (∃ j, i ≤ j ∧ j ≤ ts.length ∧ ts.drop j = [] ∧ skipNewlines (ts.drop i) = [] ∧
      (do skip ts n; f (← next ts) : Reader α).run i = .error (.failed .incomplete) j) ∨
    ∃ t j, i < j ∧ j ≤ ts.length ∧ skipNewlines (ts.drop i) = t :: ts.drop j ∧
      (do skip ts n; f (← next ts) : Reader α).run i = (f t).run j := by
  obtain ⟨j, hskip, hij, hj, hdrop⟩ := exists_skip hi hr
  rw [run_bind_ok hskip]
  rcases hd : ts.drop j with _ | ⟨t, r⟩
  · exact .inl ⟨j, hij, hj, hd, hdrop ▸ hd, run_bind_error (run_next_end hd) f⟩
  · obtain ⟨hlt, -, rfl⟩ := of_drop_eq_cons hd
    exact .inr ⟨t, j + 1, by omega, hlt, hdrop ▸ hd, run_bind_ok (run_next hd) f⟩

/-! ### One function -/

/-- More must come, and there is nothing. -/
theorem follows_end (hs : s ≤ i) (hi : i ≤ ts.length) (hd : ts.drop i = []) :
    Follows ts s (.error (.failed .incomplete) i) (.fail .incomplete []) :=
  hd ▸ .fail hs hi

/-- One function after another. -/
theorem Follows.bind {x : Reader Expr} {y : Reading Expr} {f : Expr → Reader Expr}
    {g : Expr → List Token → Reading Expr} (h : Follows ts i (x.run i) y) (hs : s ≤ i)
    (hf : ∀ e j, i < j → j ≤ ts.length → Follows ts s ((f e).run j) (g e (ts.drop j))) :
    Follows ts s ((x >>= f).run i) (y.andThen g) := by
  generalize hx : x.run i = z at h
  cases h with
  | ok hij hj =>
    rw [run_bind_ok hx]
    exact hf _ _ hij hj
  | fail hij hj =>
    rw [run_bind_error hx]
    exact .fail (Nat.le_trans hs hij) hj

theorem close_follows (hs : s ≤ i) (hi : i ≤ ts.length) (hr : ts.length - i < rounds) (e : Expr) :
    Follows ts s ((close ts rounds >>= fun _ => pure e).run i) (closing e (ts.drop i)) := by
  rcases skip_next (f := fun t => if t = .op ')' then pure () else refuse .error) hi hr with
    ⟨j, hij, hj, hd, hnil, hrun⟩ | ⟨t, j, hij, hj, hcons, hrun⟩
  · have hclose : (close ts rounds).run i = .error (.failed .incomplete) j := hrun
    rw [run_bind_error hclose, closing, hnil]
    exact follows_end (by omega) hj hd
  have hclose : (close ts rounds).run i = _ := hrun
  rw [closing_of_cons hcons]
  by_cases ht : t = .op ')'
  · rw [if_pos ht] at hclose ⊢
    rw [run_bind_ok hclose]
    exact .ok (by omega) hj
  · rw [if_neg ht] at hclose ⊢
    rw [run_bind_error hclose]
    exact .fail (by omega) hj

/-- The functions that nest no deeper than `d` follow the grammar, from everywhere. -/
def AllFollow (ts : List Token) (rounds d : Nat) (call : Level → Reader Expr) : Prop :=
  ∀ l i, i ≤ ts.length → ts.length - i < rounds → l.depth (ts.length - i) ≤ d →
    Follows ts i ((call l).run i) (l.rule.reading (ts.drop i))

/-- From further on the calls nest no deeper. -/
theorem AllFollow.onward (hcall : AllFollow ts rounds d call) (hij : i ≤ j) (hj : j ≤ ts.length)
    (hr : ts.length - i < rounds) (hdeep : l.depth (ts.length - i) ≤ d) :
    Follows ts j ((call l).run j) (l.rule.reading (ts.drop j)) :=
  hcall l j hj (by omega) (Nat.le_trans (l.depth_mono (by omega)) hdeep)

/-- Behind a token every function has the depth that it needs. -/
theorem AllFollow.behind (hcall : AllFollow ts rounds d call) (hij : i < j) (hj : j ≤ ts.length)
    (hr : ts.length - i < rounds) (hdeep : 4 * (ts.length - i) ≤ d) :
    Follows ts j ((call l).run j) (l.rule.reading (ts.drop j)) :=
  hcall l j hj (by omega) (Nat.le_trans (l.depth_le (by omega)) hdeep)

section Functions

variable (hcall : AllFollow ts rounds d call)

include hcall

/-- The loop for operators takes one in each round. -/
theorem operators_follows {a b : Char} {tail : Expr → Rule}
    (htail : ∀ lhs us, (tail lhs).reading us = goOn Rule.reading a b l.rule tail lhs us)
    (hs : s < i) (hi : i ≤ ts.length) (hr : ts.length - i < rounds)
    (hdeep : 4 * (ts.length - i) ≤ d) (hn : ts.length - i < n) :
    Follows ts s ((operators ts rounds a b (call l) n lhs).run i)
      ((tail lhs).reading (ts.drop i)) := by
  induction n generalizing i lhs with
  | zero => omega
  | succ n ih =>
    -- What is not taken is still there.
    have hstop {us : List Token} (hd : ts.drop i = us) :
        Follows ts s ((pure lhs : Reader Expr).run i) (.ok lhs us) := hd ▸ .ok hs hi
    rw [operators, htail, run_bind_ok run_peek]
    unfold goOn
    rcases hd : ts.drop i with _ | ⟨t, r⟩
    · rw [(of_drop_eq_nil hd).2]
      exact hstop hd
    obtain ⟨hlt, ht, rfl⟩ := of_drop_eq_cons hd
    rw [ht]
    cases t with
    | op c =>
      simp only
      by_cases hc : c = a ∨ c = b
      · obtain ⟨j, hskip, hij, hj, hdrop⟩ := exists_skip (i := i + 1) hlt (n := rounds) (by omega)
        rw [if_pos hc, if_pos hc, run_bind_ok run_advance, run_bind_ok hskip, ← hdrop]
        refine (hcall.behind (by omega) hj hr hdeep).bind (by omega) fun e k hjk hk => ?_
        exact ih (by omega) hk (by omega) (by omega) (by omega)
      · rw [if_neg hc, if_neg hc]
        exact hstop hd
    | _ => exact hstop hd

/-- The loop for arguments takes one in each round. -/
theorem arguments_follows {name : String} {es : List Expr} (hs : s ≤ i) (hi : i ≤ ts.length)
    (hr : ts.length - i < rounds) (hdeep : Level.sum.depth (ts.length - i) ≤ d)
    (hn : ts.length - i < n) :
    Follows ts s ((arguments ts rounds (call .sum) name n es).run i)
      ((Rule.arguments name es).reading (skipNewlines (ts.drop i))) := by
  induction n generalizing i es with
  | zero => omega
  | succ n ih =>
    obtain ⟨j, hskip, hij, hj, hdrop⟩ := exists_skip hi hr
    rw [arguments, run_bind_ok hskip, ← hdrop, reading_eq_expand, expand_arguments]
    refine (hcall.onward (l := .sum) hij hj hr hdeep).bind (by omega) fun e k hjk hk => ?_
    rcases skip_next hk (n := rounds) (by omega) _ with
      ⟨m, hkm, hm, hd, hnil, hrun⟩ | ⟨t, m, hkm, hm, hcons, hrun⟩
    · rw [hrun, hnil]
      exact follows_end (by omega) hm hd
    rw [hrun, hcons]
    simp only
    by_cases hcomma : t = .op ','
    · rw [if_pos hcomma, if_pos hcomma]
      have hdepth : Level.sum.depth (ts.length - m) ≤ Level.sum.depth (ts.length - i) :=
        Level.sum.depth_mono (by omega)
      exact ih (by omega) hm (by omega) (Nat.le_trans hdepth hdeep) (by omega)
    rw [if_neg hcomma, if_neg hcomma]
    split
    · exact .ok (by omega) hm
    · exact .fail (by omega) hm

theorem unary_follows (hi : i ≤ ts.length) (hr : ts.length - i < rounds)
    (hdeep : Level.unary.depth (ts.length - i) ≤ d + 1) :
    Follows ts i ((expand ts rounds call .unary).run i) (Rule.unary.reading (ts.drop i)) := by
  simp only [Level.depth] at hdeep
  rw [expand, run_bind_ok run_peek, reading_eq_expand]
  by_cases hminus : ts[i]? = some (.op '-')
  · obtain ⟨hlt, hd⟩ := of_getElem?_eq hminus
    rw [if_pos hminus, run_bind_ok run_advance, hd]
    refine (hcall.behind (l := .unary) (Nat.lt_succ_self i) hlt hr (by omega)).bind (by omega)
      fun e j hij hj => ?_
    exact .ok (by omega) hj
  · rw [if_neg hminus, expand_unary_ne (by rwa [List.head?_drop])]
    exact hcall .primary i hi hr (by simp only [Level.depth]; omega)

theorem primary_follows (hi : i ≤ ts.length) (hr : ts.length - i < rounds)
    (hdeep : Level.primary.depth (ts.length - i) ≤ d + 1) :
    Follows ts i ((expand ts rounds call .primary).run i) (Rule.primary.reading (ts.drop i)) := by
  simp only [Level.depth] at hdeep
  rw [expand, reading_eq_expand]
  rcases hd : ts.drop i with _ | ⟨t, r⟩
  · rw [run_bind_error (run_next_end hd)]
    exact follows_end (Nat.le_refl i) hi hd
  rw [run_bind_ok (run_next hd)]
  obtain ⟨hlt, -, rfl⟩ := of_drop_eq_cons hd
  have hok (e : Expr) : Follows ts i (.ok e (i + 1)) (.ok e (ts.drop (i + 1))) :=
    .ok (Nat.lt_succ_self i) hlt
  have hfail : Follows ts i (.error (.failed .error) (i + 1)) (.fail .error (ts.drop (i + 1))) :=
    .fail (Nat.le_succ i) hlt
  cases t with
  | num x => exact hok (.num x)
  | int n => exact hok (.int n)
  | str s => exact hok (.str s)
  | assign | newline => exact hfail
  | op c =>
    by_cases hc : c = '('
    · subst hc
      obtain ⟨j, hskip, hij, hj, hdrop⟩ := exists_skip (i := i + 1) hlt (n := rounds) (by omega)
      have hsum : Rule.expand Rule.reading .primary (.op '(' :: ts.drop (i + 1)) =
          (Rule.sum.reading (ts.drop j)).andThen closing := by
        rw [hdrop]
        rfl
      simp only [if_true, hsum]
      rw [run_bind_ok hskip]
      refine (hcall.behind (l := .sum) (by omega) hj hr (by omega)).bind (by omega)
        fun e k hjk hk => ?_
      exact close_follows (by omega) hk (by omega) e
    · simp only [if_neg hc, expand_primary_op hc]
      exact hfail
  | ident name =>
    simp only
    rw [run_bind_ok run_peek]
    by_cases hopen : ts[i + 1]? = some (.op '(')
    · obtain ⟨hlt', hd'⟩ := of_getElem?_eq hopen
      obtain ⟨j, hskip, hij, hj, hdrop⟩ :=
        exists_skip (i := i + 1 + 1) hlt' (n := rounds) (by omega)
      rw [if_pos hopen, run_bind_ok run_advance, run_bind_ok hskip, run_bind_ok run_peek,
        hd', expand_primary_call, ← hdrop, List.head?_drop]
      by_cases hclose : ts[j]? = some (.op ')')
      · rw [if_pos hclose, if_pos hclose, List.tail_drop]
        have hlt : j < ts.length := (of_getElem?_eq hclose).1
        exact .ok (j := j + 1) (by omega) hlt
      · rw [if_neg hclose, if_neg hclose]
        -- The loop begins with skipping what has been skipped already.
        have hagain : skipNewlines (ts.drop j) = ts.drop j := by
          rw [hdrop]
          exact List.dropWhile_idempotent _ _
        have hdepth : Level.sum.depth (ts.length - j) ≤ 4 * (ts.length - i) :=
          Level.sum.depth_le (by omega)
        rw [← hagain]
        exact arguments_follows hcall (by omega) hj (by omega) (by omega) (by omega)
    · rw [if_neg hopen, expand_primary_name (by rwa [List.head?_drop])]
      exact hok (.ofName name)

/-- Each function follows the grammar, if those that it calls do. -/
theorem expand_follows (hi : i ≤ ts.length) (hr : ts.length - i < rounds)
    (hdeep : l.depth (ts.length - i) ≤ d + 1) :
    Follows ts i ((expand ts rounds call l).run i) (l.rule.reading (ts.drop i)) := by
  cases l with
  | unary => exact unary_follows hcall hi hr hdeep
  | primary => exact primary_follows hcall hi hr hdeep
  | sum =>
    simp only [Level.depth] at hdeep
    rw [expand, Level.rule, reading_eq_expand]
    refine (hcall .product i hi hr (by simp only [Level.depth]; omega)).bind (Nat.le_refl i)
      fun e j hij hj => ?_
    exact operators_follows (l := .product) hcall (fun _ _ => reading_eq_expand _ _) hij hj
      (by omega) (by omega) (by omega)
  | product =>
    simp only [Level.depth] at hdeep
    rw [expand, Level.rule, reading_eq_expand]
    refine (hcall .unary i hi hr (by simp only [Level.depth]; omega)).bind (Nat.le_refl i)
      fun e j hij hj => ?_
    exact operators_follows (l := .unary) hcall (fun _ _ => reading_eq_expand _ _) hij hj
      (by omega) (by omega) (by omega)

end Functions

/-- With depth for the tokens left and more rounds than those, every function ends from everywhere,
moves on if it succeeds, and reads what its rule does. -/
theorem level_follows (ts : List Token) (rounds d : Nat) :
    AllFollow ts rounds d (level ts rounds d) := by
  induction d with
  | zero =>
    intro l i _ _ hdeep
    have := l.lt_depth (ts.length - i)
    omega
  | succ d ih => exact fun l i hi hr hdeep => expand_follows ih hi hr hdeep

/-! ### Statements -/

/-- A statement nests one call deeper than a sum. -/
theorem statement_follows (hi : i ≤ ts.length) (hr : ts.length - i < rounds)
    (hdeep : 4 * (ts.length - i) + 5 ≤ d) :
    Follows ts i ((statement ts rounds d).run i) (Mini.statement (ts.drop i)) := by
  obtain ⟨d, rfl⟩ : ∃ d', d = d' + 1 := ⟨d - 1, by omega⟩
  rw [statement, run_bind_ok (EStateM.run_get i)]
  by_cases h : ∃ name r, ts.drop i = .ident name :: .assign :: r
  · obtain ⟨name, r, hd⟩ := h
    obtain ⟨-, hname, hd'⟩ := of_drop_eq_cons hd
    obtain ⟨hlt, hassign, rfl⟩ := of_drop_eq_cons hd'
    obtain ⟨j, hskip, hij, hj, hdrop⟩ := exists_skip (i := i + 1 + 1) hlt (n := rounds) (by omega)
    rw [hname, hassign, hd, statement_assign, ← hdrop]
    simp only
    rw [run_bind_ok run_advance, run_bind_ok run_advance, run_bind_ok hskip]
    refine ((level_follows ts rounds d).behind (l := .sum) (i := i) (by omega) hj hr
      (by omega)).bind (by omega) fun e k hjk hk => ?_
    exact .ok (by omega) hk
  · have hsum : Follows ts i ((level ts rounds d .sum).run i) (Mini.statement (ts.drop i)) := by
      rw [statement_eq_sum fun name r heq => h ⟨name, r, heq⟩]
      exact level_follows ts rounds d .sum i hi hr (by simp only [Level.depth]; omega)
    split
    · rename_i name hname hassign
      refine absurd ⟨name, ts.drop (i + 1 + 1), ?_⟩ h
      rw [(of_getElem?_eq hname).2, (of_getElem?_eq hassign).2]
    · exact hsum

/-- The loop for statements reads one in each round. -/
theorem program_concludes (hi : i ≤ ts.length) (hr : ts.length - i < rounds)
    (hdeep : 4 * (ts.length - i) + 5 ≤ d) (hn : ts.length - i < n) (es : List Expr) :
    Concludes ts.length i ((program ts rounds d n es).run i)
      ((Mini.program (ts.drop i)).map (es ++ ·)) := by
  induction n generalizing i es with
  | zero => omega
  | succ n ih =>
    obtain ⟨j, hskip, hij, hj, hdrop⟩ := exists_skip hi hr
    rw [program, run_bind_ok hskip, run_bind_ok run_peek, program_eq_expandProgram, expandProgram,
      ← hdrop]
    rcases hd : ts.drop j with _ | ⟨t, r⟩
    · obtain ⟨hle, hnone⟩ := of_drop_eq_nil hd
      obtain rfl : j = ts.length := by omega
      rw [if_pos hnone]
      simp only [Except.map, List.append_nil]
      exact .ok
    have hsome : ¬ ts[j]? = none := by simp [(of_drop_eq_cons hd).2.1]
    have hstatement : Follows ts j ((statement ts rounds d).run j) (Mini.statement (ts.drop j)) :=
      statement_follows hj (by omega) (by omega)
    rw [if_neg hsome]
    simp only [← hd]
    generalize hx : (statement ts rounds d).run j = x at hstatement
    generalize Mini.statement (ts.drop j) = y at hstatement
    cases hstatement with
    | fail hjk hk =>
      rw [run_bind_error hx]
      exact .fail (by omega) hk
    | @ok e k hjk hk =>
      have hgo := (ih hk (by omega) (by omega) (by omega) (es ++ [e])).mono (i := i) (by omega)
      have hmap (y : Except Failure (List Expr)) :
          y.map ((es ++ [e]) ++ ·) = (y.map (e :: ·)).map (es ++ ·) := by
        cases y <;> simp [Except.map]
      rw [hmap] at hgo
      rw [run_bind_ok hx, run_bind_ok run_peek]
      rcases hd' : ts.drop k with _ | ⟨t', r'⟩
      · rw [hd'] at hgo
        rw [(of_drop_eq_nil hd').2]
        exact hgo
      · rw [hd'] at hgo
        rw [(of_drop_eq_cons hd').2.1]
        cases t' with
        | newline => exact hgo
        | _ => exact .fail (by omega) hk

end GuestRuntime.Cursor
