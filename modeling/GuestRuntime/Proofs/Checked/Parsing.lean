import GuestRuntime.Proofs.Checked.Scanning
import GuestRuntime.Proofs.Syntax.Program

/-!
Expressions read by position. The tokens stand in memory and a position goes over them, which is
counted up with every token taken and never goes back:

        f ( x , 1 )
        ▲   ▲ position + 1, + 1, over newlines

A token is looked at only where there is one, and more must come where there is none. From a
position the rules read what they read of the tokens behind it. Main statement: `Checked.parse_eq`.
-/

namespace GuestRuntime.Checked

open Mini

section Definitions

variable (ts : List Token)

/-- The token at a position, and the position behind it. -/
def take (i : Nat) : Attempt (Token × Nat) :=
  match ts[i]? with
  | some t => return (t, ← checked (add i 1))
  | none => throw .incomplete

/-- Behind the newlines at a position. -/
def skip (i : Nat) : Attempt Nat := checked (advance ts (· = .newline) (rounds ts) i)

/-- Behind the closing parenthesis that must come. -/
def closingAt (e : Expr) (i : Nat) : Attempt (Expr × Nat) := do
  let (t, i) ← take ts (← skip ts i)
  if t = .op ')' then return (e, i) else throw .error

/-- One rule at a position, with `next` to read the rules it refers to. -/
def expandAt (next : Rule → Nat → Attempt (Expr × Nat)) : Rule → Nat → Attempt (Expr × Nat)
  | .sum, i => do
    let (e, i) ← next .product i
    next (.sumTail e) i
  | .sumTail lhs, i =>
    match ts[i]? with
    | some (.op c) =>
      if c = '+' ∨ c = '-' then do
        let (e, i) ← next .product (← skip ts (← checked (add i 1)))
        next (.sumTail (.binary c lhs e)) i
      else return (lhs, i)
    | _ => return (lhs, i)
  | .product, i => do
    let (e, i) ← next .unary i
    next (.productTail e) i
  | .productTail lhs, i =>
    match ts[i]? with
    | some (.op c) =>
      if c = '*' ∨ c = '/' then do
        let (e, i) ← next .unary (← skip ts (← checked (add i 1)))
        next (.productTail (.binary c lhs e)) i
      else return (lhs, i)
    | _ => return (lhs, i)
  | .unary, i =>
    if ts[i]? = some (.op '-') then do
      let (e, i) ← next .unary (← checked (add i 1))
      return (.neg e, i)
    else next .primary i
  | .primary, i => do
    match ← take ts i with
    | (.num x, i) => return (.num x, i)
    | (.int n, i) => return (.int n, i)
    | (.str s, i) => return (.str s, i)
    | (.op c, i) =>
      if c = '(' then do
        let (e, i) ← next .sum (← skip ts i)
        closingAt ts e i
      else throw .error
    | (.ident name, i) =>
      if ts[i]? = some (.op '(') then do
        let i ← skip ts (← checked (add i 1))
        if ts[i]? = some (.op ')') then return (.call name [], ← checked (add i 1))
        else next (.arguments name []) i
      else return (.ofName name, i)
    | _ => throw .error
  | .arguments name before, i => do
    let (e, i) ← next .sum i
    let (t, i) ← take ts (← skip ts i)
    if t = .op ',' then next (.arguments name (before ++ [e])) (← skip ts i)
    else if t = .op ')' then return (.call name (before ++ [e]), i)
    else throw .error

/-- Reads one expression by a rule; the number bounds the nesting of rules. -/
def readAt : Nat → Rule → Nat → Attempt (Expr × Nat)
  | 0, _, _ => checked (.error .endless)
  | n + 1, rule, i => expandAt ts (readAt n) rule i

def statementAt (i : Nat) : Attempt (Expr × Nat) := do
  match ts[i]?, ts[(← checked (add i 1))]? with
  | some (.ident name), some .assign => do
    let (_, i) ← take ts i
    let (e, i) ← readAt ts (nesting ts) .sum (← skip ts (← checked (add i 1)))
    return (.assign name e, i)
  | _, _ => readAt ts (nesting ts) .sum i

/-- The statements from a position on. -/
def statementsAt : Nat → Nat → Attempt (List Expr)
  | 0, _ => checked (.error .endless)
  | n + 1, i => do
    let i ← skip ts i
    if ts[i]? = none then return []
    let (e, i) ← statementAt ts i
    match ts[i]? with
    | none | some .newline => return e :: (← statementsAt n i)
    | some _ => throw .error

end Definitions

/-- The expressions of a source text. -/
def parse (source : List Char) : Attempt (List Expr) := do
  let ts ← lex source
  statementsAt ts (rounds ts) 0

/-! ### Positions and what is behind them -/

/-- What was read by position: the expression with the position behind it, or the failure. -/
inductive Places (ts : List Token) : Attempt (Expr × Nat) → Reading Expr → Prop
  | ok {e i} (hi : i ≤ ts.length) : Places ts (pure (e, i)) (.ok e (ts.drop i))
  | fail {w r} : Places ts (throw w) (.fail w r)

variable {ts : List Token} {rule rule' : Rule} {i j n : Nat} {e : Expr} {t : Token}
  {r us : List Token}

/-- One reading after another. -/
theorem Places.bind {x : Attempt (Expr × Nat)} {y : Reading Expr}
    {f : Expr × Nat → Attempt (Expr × Nat)} {g : Expr → List Token → Reading Expr}
    (h : Places ts x y)
    (hf : ∀ e j, j ≤ ts.length → y = .ok e (ts.drop j) → Places ts (f (e, j)) (g e (ts.drop j))) :
    Places ts (x >>= f) (y.andThen g) := by
  cases h with
  | ok hi => exact hf _ _ hi rfl
  | fail => exact .fail

theorem take_cons (hts : ts.length ≤ capacity) (hd : ts.drop i = t :: r) :
    take ts i = pure (t, i + 1) ∧ i + 1 ≤ ts.length ∧ ts.drop (i + 1) = r := by
  obtain ⟨hi, ht, hr⟩ := of_drop_eq_cons hd
  refine ⟨?_, hi, hr⟩
  simp only [take, ht, add_one_eq hts (Nat.le_of_lt hi), checked_ok_bind]

theorem take_nil (hd : ts.drop i = []) : take ts i = throw .incomplete := by
  rw [take, (of_drop_eq_nil hd).2]

theorem exists_skip (hts : ts.length ≤ capacity) (hi : i ≤ ts.length) :
    ∃ j, j ≤ ts.length ∧ skip ts i = pure j ∧ ts.drop j = skipNewlines (ts.drop i) := by
  obtain ⟨j, -, hj, hadvance, -, hdrop⟩ := exists_advance hts (fun t => decide (t = .newline)) hi
  exact ⟨j, hj, by rw [skip, hadvance]; rfl, hdrop⟩

/-- The token behind the newlines at a position. -/
theorem skip_take (hts : ts.length ≤ capacity) (hi : i ≤ ts.length) {α : Type}
    (f : Token × Nat → Attempt α) :
    (skipNewlines (ts.drop i) = [] ∧ (do f (← take ts (← skip ts i))) = throw .incomplete) ∨
    ∃ t j, skipNewlines (ts.drop i) = t :: ts.drop j ∧ j ≤ ts.length ∧
      (do f (← take ts (← skip ts i))) = f (t, j) := by
  obtain ⟨j, hj, hskip, hdrop⟩ := exists_skip hts hi
  rw [hskip, return_bind]
  rcases hd : ts.drop j with _ | ⟨t, r⟩
  · rw [take_nil hd, fail_bind]
    exact .inl ⟨hdrop ▸ hd, rfl⟩
  · obtain ⟨htake, hj', rfl⟩ := take_cons hts hd
    rw [htake, return_bind]
    exact .inr ⟨t, j + 1, hdrop ▸ hd, hj', rfl⟩

theorem closingAt_places (hts : ts.length ≤ capacity) (hi : i ≤ ts.length) (e : Expr) :
    Places ts (closingAt ts e i) (closing e (ts.drop i)) := by
  rw [closingAt]
  rcases skip_take hts hi _ with ⟨hd, h⟩ | ⟨t, j, hd, hj, h⟩
  · rw [h, closing, hd]
    exact .fail
  · rw [h, closing_of_cons hd]
    simp only
    split
    · exact .ok hj
    · exact .fail

/-! ### The rules -/

/-- Rules that need fewer steps than `n` are read by position as they are read. -/
def ReadsBelow (ts : List Token) (n : Nat) (next : Rule → Nat → Attempt (Expr × Nat)) : Prop :=
  ∀ {rule i}, i ≤ ts.length → rule.need (ts.drop i) < n →
    Places ts (next rule i) (rule.reading (ts.drop i))

/-- What a tail reads at a position, behind an operand. -/
def goOnAt (ts : List Token) (next : Rule → Nat → Attempt (Expr × Nat)) (a b : Char)
    (operand : Rule) (tail : Expr → Rule) (lhs : Expr) (i : Nat) : Attempt (Expr × Nat) :=
  match ts[i]? with
  | some (.op c) =>
    if c = a ∨ c = b then do
      let (e, i) ← next operand (← skip ts (← checked (add i 1)))
      next (tail (.binary c lhs e)) i
    else return (lhs, i)
  | _ => return (lhs, i)

section Rules

variable {next : Rule → Nat → Attempt (Expr × Nat)}
  (hnext : ReadsBelow ts (rule.need (ts.drop i)) next)

include hnext

/-- One rule after another, the first taking a token at least. -/
theorem ReadsBelow.andThen (hj : j ≤ ts.length) (hrule : rule'.least = 1)
    (hle : (ts.drop j).length ≤ (ts.drop i).length)
    (hneed : rule'.need (ts.drop j) < rule.need (ts.drop i)) (tail : Expr → Rule) :
    Places ts (next rule' j >>= fun p => next (tail p.1) p.2)
      ((rule'.reading (ts.drop j)).andThen fun e r => (tail e).reading r) := by
  refine (hnext hj hneed).bind fun e k hk he => ?_
  have hprogress : (ts.drop k).length + rule'.least ≤ (ts.drop j).length := read_progresses _ he
  have hlt : (ts.drop k).length < (ts.drop i).length := by omega
  exact hnext hk (Rule.need_lt hlt)

/-- An operator at a position, and what follows it. -/
theorem ReadsBelow.operator (hts : ts.length ≤ capacity) (hd : ts.drop i = t :: r)
    (hrule : rule'.least = 1) (tail : Expr → Rule) :
    Places ts
      (do
        let (e, k) ← next rule' (← skip ts (← checked (add i 1)))
        next (tail e) k)
      ((rule'.reading (skipNewlines r)).andThen fun e r => (tail e).reading r) := by
  obtain ⟨hi, -, rfl⟩ := of_drop_eq_cons hd
  obtain ⟨j, hj, hskip, hdrop⟩ := exists_skip (i := i + 1) hts hi
  have hlen := length_skipNewlines_le (ts.drop (i + 1))
  have hlt : (ts.drop j).length < (ts.drop i).length := by
    rw [hd, List.length_cons, hdrop]
    omega
  rw [add_one_eq hts (Nat.le_of_lt hi), checked_ok_bind, hskip, return_bind, ← hdrop]
  exact hnext.andThen hj hrule (Nat.le_of_lt hlt) (Rule.need_lt hlt) tail

end Rules

section Expansion

variable {next : Rule → Nat → Attempt (Expr × Nat)} {lhs : Expr} {name : String}
  {before : List Expr} (hts : ts.length ≤ capacity)

include hts

theorem goOn_places {a b : Char} {operand : Rule} {tail : Expr → Rule} (hi : i ≤ ts.length)
    (hoperand : operand.least = 1) (hnext : ReadsBelow ts ((tail lhs).need (ts.drop i)) next) :
    Places ts (goOnAt ts next a b operand tail lhs i)
      (goOn Rule.reading a b operand tail lhs (ts.drop i)) := by
  -- What is not taken is still there.
  have hstop {us : List Token} (hd : ts.drop i = us) : Places ts (pure (lhs, i)) (.ok lhs us) :=
    hd ▸ .ok hi
  unfold goOnAt goOn
  rcases hd : ts.drop i with _ | ⟨t, r⟩
  · rw [(of_drop_eq_nil hd).2]
    exact hstop hd
  rw [(of_drop_eq_cons hd).2.1]
  cases t with
  | op c =>
    simp only
    by_cases hc : c = a ∨ c = b
    · rw [if_pos hc, if_pos hc]
      exact hnext.operator hts hd hoperand fun e => tail (.binary c lhs e)
    · rw [if_neg hc, if_neg hc]
      exact hstop hd
  | _ => exact hstop hd

theorem unary_places (hi : i ≤ ts.length)
    (hnext : ReadsBelow ts (Rule.unary.need (ts.drop i)) next) :
    Places ts (expandAt ts next .unary i) (Rule.expand Rule.reading .unary (ts.drop i)) := by
  have hprimary {us : List Token} (hd : ts.drop i = us) :
      Places ts (next .primary i) (Rule.primary.reading us) :=
    hd ▸ hnext hi (by simp [Rule.need])
  simp only [expandAt, Rule.expand]
  rcases hd : ts.drop i with _ | ⟨t, r⟩
  · rw [(of_drop_eq_nil hd).2, if_neg (by simp)]
    exact hprimary hd
  obtain ⟨hlt, ht, rfl⟩ := of_drop_eq_cons hd
  rw [ht]
  by_cases hc : t = .op '-'
  · subst hc
    rw [if_pos rfl, add_one_eq hts hi, checked_ok_bind]
    have hneed : Rule.unary.need (ts.drop (i + 1)) < Rule.unary.need (ts.drop i) :=
      Rule.need_lt (by simp [hd])
    exact (hnext hlt hneed).bind fun e j hj _ => .ok hj
  · rw [if_neg (by simpa using hc)]
    split
    · rename_i heq
      cases heq
      exact absurd rfl hc
    · exact hprimary hd

theorem primary_places
    (hnext : ReadsBelow ts (Rule.primary.need (ts.drop i)) next) :
    Places ts (expandAt ts next .primary i) (Rule.expand Rule.reading .primary (ts.drop i)) := by
  rw [expandAt]
  rcases hd : ts.drop i with _ | ⟨t, r⟩
  · rw [take_nil hd]
    exact .fail
  obtain ⟨htake, hlt, rfl⟩ := take_cons hts hd
  have hless {j : Nat} (hj : (ts.drop j).length ≤ (ts.drop (i + 1)).length) {rule : Rule} :
      rule.need (ts.drop j) < Rule.primary.need (ts.drop i) := Rule.need_lt (by
      rw [hd, List.length_cons]
      omega)
  rw [htake, return_bind]
  cases t with
  | num | int | str => exact .ok hlt
  | assign | newline => exact .fail
  | op c =>
    by_cases hc : c = '('
    · subst hc
      obtain ⟨j, hj, hskip, hdrop⟩ := exists_skip hts hlt
      have hle := hdrop ▸ length_skipNewlines_le (ts.drop (i + 1))
      have hsum : Rule.expand Rule.reading .primary (.op '(' :: ts.drop (i + 1)) =
          (Rule.sum.reading (ts.drop j)).andThen closing := by rw [hdrop]; rfl
      simp only [if_true, hskip, return_bind, hsum]
      exact (hnext hj (hless hle)).bind fun e k hk _ => closingAt_places hts hk e
    · simp only [if_neg hc, expand_primary_op hc]
      exact .fail
  | ident name =>
    simp only
    by_cases hopen : ts[i + 1]? = some (.op '(')
    · obtain ⟨hlt', hd'⟩ := of_getElem?_eq hopen
      obtain ⟨j, hj, hskip, hdrop⟩ := exists_skip (i := i + 1 + 1) hts hlt'
      rw [if_pos hopen, add_one_eq hts hlt, checked_ok_bind, hskip, return_bind,
        hd', expand_primary_call, ← hdrop, List.head?_drop]
      by_cases hclose : ts[j]? = some (.op ')')
      · rw [if_pos hclose, if_pos hclose, add_one_eq hts hj, checked_ok_bind, List.tail_drop]
        exact .ok (of_getElem?_eq hclose).1
      · rw [if_neg hclose, if_neg hclose]
        refine hnext hj (hless ?_)
        have hle := hdrop ▸ length_skipNewlines_le (ts.drop (i + 1 + 1))
        simp only [List.length_drop] at hle ⊢
        omega
    · rw [if_neg hopen, expand_primary_name (by rwa [List.head?_drop])]
      exact .ok hlt

theorem arguments_places (hi : i ≤ ts.length)
    (hnext : ReadsBelow ts ((Rule.arguments name before).need (ts.drop i)) next) :
    Places ts (expandAt ts next (.arguments name before) i)
      (Rule.expand Rule.reading (.arguments name before) (ts.drop i)) := by
  rw [expandAt, expand_arguments]
  refine (hnext hi (by simp [Rule.need])).bind fun e j hj he => ?_
  simp only
  rcases skip_take hts hj _ with ⟨hd, h⟩ | ⟨t, k, hd, hk, h⟩
  · rw [h, hd]
    exact .fail
  rw [h, hd]
  simp only
  by_cases hcomma : t = .op ','
  · obtain ⟨l, hl, hskip, hdrop⟩ := exists_skip hts hk
    rw [if_pos hcomma, if_pos hcomma, hskip, return_bind, ← hdrop]
    -- What stands before the comma has been taken, and the comma.
    have hfirst : (ts.drop j).length + 1 ≤ (ts.drop i).length := read_progresses _ he
    have hrest := hd ▸ length_skipNewlines_le (ts.drop j)
    have hle := hdrop ▸ length_skipNewlines_le (ts.drop k)
    rw [List.length_cons] at hrest
    exact hnext hl (Rule.need_lt (by omega))
  rw [if_neg hcomma, if_neg hcomma]
  split
  · exact .ok hk
  · exact .fail

/-- From a position one rule reads what it reads of the tokens behind it. -/
theorem expandAt_places (hi : i ≤ ts.length)
    (hnext : ReadsBelow ts (rule.need (ts.drop i)) next) :
    Places ts (expandAt ts next rule i) (rule.reading (ts.drop i)) := by
  rw [reading_eq_expand]
  cases rule with
  | sum | product => exact hnext.andThen hi rfl (Nat.le_refl _) (by simp [Rule.need]) _
  | sumTail lhs => exact goOn_places hts hi rfl hnext
  | productTail lhs => exact goOn_places hts hi rfl hnext
  | unary => exact unary_places hts hi hnext
  | primary => exact primary_places hts hnext
  | arguments name before => exact arguments_places hts hi hnext

end Expansion

theorem readAt_places (hts : ts.length ≤ capacity) (hi : i ≤ ts.length)
    (hn : rule.need (ts.drop i) ≤ n) :
    Places ts (readAt ts n rule i) (rule.reading (ts.drop i)) := by
  induction n generalizing rule i with
  | zero => cases rule <;> simp [Rule.need] at hn
  | succ n ih => exact expandAt_places hts hi fun hj hlt => ih hj (by omega)

/-! ### Statements -/

/-- What stands in the tokens needs no more steps than there are for all of them. -/
theorem readAt_sum_places (hts : ts.length ≤ capacity) (hi : i ≤ ts.length) :
    Places ts (readAt ts (nesting ts) .sum i) (Rule.sum.reading (ts.drop i)) := by
  have hlen : (ts.drop i).length ≤ ts.length := (List.drop_sublist i ts).length_le
  exact readAt_places hts hi (by rw [Rule.need, nesting]; omega)

theorem statementAt_places (hts : ts.length ≤ capacity) (hi : i ≤ ts.length) :
    Places ts (statementAt ts i) (statement (ts.drop i)) := by
  rw [statementAt, add_one_eq hts hi, checked_ok_bind]
  by_cases h : ∃ name r, ts.drop i = .ident name :: .assign :: r
  · obtain ⟨name, r, hd⟩ := h
    obtain ⟨htake, -, hd'⟩ := take_cons hts hd
    obtain ⟨hlt, hassign, rfl⟩ := of_drop_eq_cons hd'
    obtain ⟨j, hj, hskip, hdrop⟩ := exists_skip (i := i + 1 + 1) hts hlt
    have hle := hdrop ▸ length_skipNewlines_le (ts.drop (i + 1 + 1))
    rw [(of_drop_eq_cons hd).2.1, hassign, hd]
    simp only [htake, return_bind, add_one_eq hts (Nat.le_of_lt hlt), checked_ok_bind, hskip,
      statement_assign, ← hdrop]
    exact (readAt_sum_places hts hj).bind fun e k hk _ => .ok hk
  · rw [statement_eq_sum fun name r heq => h ⟨name, r, heq⟩]
    split
    · rename_i name hname hassign
      refine absurd ⟨name, ts.drop (i + 1 + 1), ?_⟩ h
      rw [(of_getElem?_eq hname).2, (of_getElem?_eq hassign).2]
    · exact readAt_sum_places hts hi

/-- The statements from a position on are those of the tokens behind it. -/
theorem statementsAt_eq (hts : ts.length ≤ capacity) (hi : i ≤ ts.length) {m : Nat}
    (hn : (ts.drop i).length < n) (hm : (ts.drop i).length < m) :
    statementsAt ts n i = answered (statements m (ts.drop i)) := by
  induction n generalizing i m with
  | zero => cases hn
  | succ n ih =>
    obtain ⟨m, rfl⟩ := Nat.exists_eq_succ_of_ne_zero (Nat.ne_zero_of_lt hm)
    obtain ⟨j, hj, hskip, hdrop⟩ := exists_skip hts hi
    have hle := hdrop ▸ length_skipNewlines_le (ts.drop i)
    rw [statementsAt, statements, hskip, return_bind, ← hdrop]
    rcases hd : ts.drop j with _ | ⟨t, r⟩
    · rw [(of_drop_eq_nil hd).2, if_pos rfl]
      rfl
    have hsome : ¬ ts[j]? = none := by simp [(of_drop_eq_cons hd).2.1]
    have hstatement := statementAt_places hts hj
    rw [if_neg hsome]
    simp only [← hd]
    generalize hx : statementAt ts j = x at hstatement
    generalize hy : statement (ts.drop j) = y at hstatement
    cases hstatement with
    | fail => rfl
    | @ok e k hk =>
      have hlt : (ts.drop k).length < (ts.drop j).length := (statement_sound hy).length_lt
      have hgo := ih hk (m := m) (by omega) (by omega)
      simp only [return_bind]
      rcases hd' : ts.drop k with _ | ⟨t', r'⟩
      · obtain ⟨m, rfl⟩ := Nat.exists_eq_succ_of_ne_zero (n := m) (by omega)
        rw [(of_drop_eq_nil hd').2, hgo, hd']
        rfl
      · rw [(of_drop_eq_cons hd').2.1]
        cases t' with
        | newline =>
          rw [hgo, hd']
          cases statements m (.newline :: r') <;> rfl
        | _ => rfl

/-- Read by position, a source text that fits in memory has the expressions it has, and reading it
ends without a trap. -/
theorem parse_eq {source : List Char} (h : source.length ≤ capacity) :
    parse source = answered (Mini.parse source) := by
  rw [parse, Mini.parse, lex_eq h]
  cases hlex : Token.lex source with
  | error w => rfl
  | ok ts =>
    have hts : ts.length ≤ capacity := Nat.le_trans (length_le_of_lex h hlex) h
    exact statementsAt_eq hts (Nat.zero_le _) (Nat.lt_succ_self _) (Nat.lt_succ_self _)

end GuestRuntime.Checked
