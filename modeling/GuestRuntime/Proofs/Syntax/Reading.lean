import GuestRuntime.Mini.Grammar

/-!
Reading without bounds. A rule needs only so many steps for the tokens it is given, and more steps
read the same; so `Rule.reading` is what a rule reads, and it obeys the rules themselves, in which
no number of steps is left. Main statements: `read_progresses` and `reading_eq_expand`.
-/

namespace GuestRuntime.Mini

namespace Reading

variable {α β : Type}

@[simp] theorem andThen_ok (a : α) (r : List Token) (f : α → List Token → Reading β) :
    (ok a r).andThen f = f a r := rfl

@[simp] theorem andThen_fail (w : Failure) (r : List Token) (f : α → List Token → Reading β) :
    (fail w r).andThen f = fail w r := rfl

theorem andThen_eq_ok {x : Reading α} {f : α → List Token → Reading β} {b : β} {r : List Token} :
    x.andThen f = .ok b r ↔ ∃ a s, x = .ok a s ∧ f a s = .ok b r := by
  cases x with
  | ok a s => simp [and_assoc]
  | fail w s => simp

theorem andThen_eq_fail {x : Reading α} {f : α → List Token → Reading β} {w : Failure}
    {r : List Token} :
    x.andThen f = .fail w r ↔ x = .fail w r ∨ ∃ a s, x = .ok a s ∧ f a s = .fail w r := by
  cases x with
  | ok a s => simp [and_assoc]
  | fail w s => simp

theorem map_eq_ok {x : Reading α} {f : α → β} {b : β} {r : List Token} :
    x.map f = .ok b r ↔ ∃ a, x = .ok a r ∧ f a = b := by
  simp [map, andThen_eq_ok]

/-- What follows need only agree on what was read. -/
theorem andThen_congr {x : Reading α} {f g : α → List Token → Reading β}
    (h : ∀ a r, x = .ok a r → f a r = g a r) : x.andThen f = x.andThen g := by
  cases x with
  | ok a r => exact h a r rfl
  | fail w r => rfl

end Reading

open Reading

theorem length_skipNewlines_le (ts : List Token) : (skipNewlines ts).length ≤ ts.length :=
  (List.dropWhile_sublist _).length_le

theorem closing_eq_ok {e e' : Expr} {ts r : List Token} :
    closing e ts = .ok e' r ↔ e' = e ∧ skipNewlines ts = .op ')' :: r := by
  unfold closing
  split
  · rename_i h
    simp [h]
  · rename_i us h
    simp [h, eq_comm]
  · rename_i t us hne h
    simp only [h, reduceCtorEq, List.cons.injEq, false_iff, not_and]
    rintro rfl rfl
    exact absurd rfl hne

theorem closing_of_cons {e : Expr} {t : Token} {ts r : List Token} (h : skipNewlines ts = t :: r) :
    closing e ts = if t = .op ')' then .ok e r else .fail .error r := by
  rw [closing, h]
  split
  · rename_i heq
    cases heq
  · rename_i heq
    cases heq
    rfl
  · rename_i hne heq
    cases heq
    refine (if_neg ?_).symm
    rintro rfl
    exact hne rfl

/-! ### Equations -/

/-- What a tail reads behind an operand: a further one if one of the two operators comes. -/
def goOn (next : Rule → List Token → Reading Expr) (a b : Char) (operand : Rule)
    (tail : Expr → Rule) (lhs : Expr) (ts : List Token) : Reading Expr :=
  match ts with
  | .op c :: r =>
    if c = a ∨ c = b then
      (next operand (skipNewlines r)).andThen fun e r => next (tail (.binary c lhs e)) r
    else .ok lhs ts
  | _ => .ok lhs ts

section Equations

variable {next : Rule → List Token → Reading Expr} {name : String} {ts r : List Token}

theorem expand_sumTail {lhs : Expr} :
    Rule.expand next (.sumTail lhs) ts = goOn next '+' '-' .product .sumTail lhs ts := rfl

theorem expand_productTail {lhs : Expr} :
    Rule.expand next (.productTail lhs) ts = goOn next '*' '/' .unary .productTail lhs ts := rfl

/-- A tail goes on behind an operator, or leaves the operand as it is. -/
theorem goOn_cases (next : Rule → List Token → Reading Expr) (a b : Char) (operand : Rule)
    (tail : Expr → Rule) (lhs : Expr) (ts : List Token) :
    (∃ c r, ts = .op c :: r ∧ (c = a ∨ c = b) ∧ goOn next a b operand tail lhs ts =
        (next operand (skipNewlines r)).andThen fun e r => next (tail (.binary c lhs e)) r) ∨
      goOn next a b operand tail lhs ts = .ok lhs ts := by
  unfold goOn
  split
  · rename_i c r
    by_cases hc : c = a ∨ c = b
    · exact .inl ⟨c, r, rfl, hc, if_pos hc⟩
    · exact .inr (if_neg hc)
  · exact .inr rfl

theorem expand_unary_ne (hts : ts.head? ≠ some (.op '-')) :
    Rule.expand next .unary ts = next .primary ts := by
  cases ts with
  | nil => rfl
  | cons t us =>
    have ht : t ≠ .op '-' := by simpa using hts
    simp [Rule.expand, ht]

theorem expand_primary_op {c : Char} (hc : c ≠ '(') :
    Rule.expand next .primary (.op c :: r) = .fail .error r := by
  simp only [Rule.expand]
  split <;> simp_all

theorem expand_primary_name (h : r.head? ≠ some (.op '(')) :
    Rule.expand next .primary (.ident name :: r) = .ok (.ofName name) r := by
  rcases r with _ | ⟨t, r⟩
  · rfl
  cases t with
  | op c =>
    have hc : c ≠ '(' := by
      rintro rfl
      exact h rfl
    simp [Rule.expand, hc]
  | _ => rfl

theorem expand_primary_call :
    Rule.expand next .primary (.ident name :: .op '(' :: r) =
      if (skipNewlines r).head? = some (.op ')') then .ok (.call name []) (skipNewlines r).tail
      else next (.arguments name []) (skipNewlines r) := by
  simp only [Rule.expand]
  generalize skipNewlines r = us
  split
  · rfl
  · rename_i hother
    refine (if_neg fun hclose => ?_).symm
    obtain ⟨us, rfl⟩ := List.head?_eq_some_iff.mp hclose
    exact hother us rfl

theorem expand_arguments {before : List Expr} :
    Rule.expand next (.arguments name before) ts = (next .sum ts).andThen fun e r =>
      match skipNewlines r with
      | [] => .fail .incomplete []
      | t :: r =>
        if t = .op ',' then next (.arguments name (before ++ [e])) (skipNewlines r)
        else if t = .op ')' then .ok (.call name (before ++ [e])) r
        else .fail .error r := by
  rw [Rule.expand]
  congr 1
  funext e r
  split <;> simp_all

end Equations

/-! ### Progress -/

/-- A rule reads at least one token, a tail perhaps none. -/
def Rule.least : Rule → Nat
  | .sumTail _ | .productTail _ => 0
  | _ => 1

/-- Every rule that is read takes its least number of tokens. -/
def Progresses (next : Rule → List Token → Reading Expr) : Prop :=
  ∀ {rule ts e r}, next rule ts = .ok e r → r.length + rule.least ≤ ts.length

/-- What is read by one rule after another takes what the first takes. -/
theorem Progresses.andThen {next : Rule → List Token → Reading Expr} (ih : Progresses next)
    {rule : Rule} {tail : Expr → Rule} {ts r : List Token} {e : Expr}
    (h : ((next rule ts).andThen fun a s => next (tail a) s) = .ok e r) :
    r.length + rule.least ≤ ts.length := by
  obtain ⟨a, s, h₁, h₂⟩ := andThen_eq_ok.mp h
  have hs := ih h₁
  have hr := ih h₂
  omega

theorem Progresses.goOn {next : Rule → List Token → Reading Expr} (ih : Progresses next)
    {a b : Char} {operand : Rule} {tail : Expr → Rule} {lhs e : Expr} {ts r : List Token}
    (h : goOn next a b operand tail lhs ts = .ok e r) : r.length ≤ ts.length := by
  rcases goOn_cases next a b operand tail lhs ts with ⟨c, us, rfl, -, heq⟩ | heq
  · have hr := ih.andThen (heq.symm.trans h)
    have hus := length_skipNewlines_le us
    rw [List.length_cons]
    omega
  · cases heq.symm.trans h
    exact Nat.le_refl _

theorem expand_progresses {next : Rule → List Token → Reading Expr} (ih : Progresses next) :
    Progresses (Rule.expand next) := by
  intro rule ts e r h
  cases rule with
  | sum =>
    have h : ((next .product ts).andThen fun a s => next (.sumTail a) s) = .ok e r := h
    have hr := ih.andThen h
    exact hr
  | sumTail lhs => exact ih.goOn (expand_sumTail.symm.trans h)
  | product =>
    have h : ((next .unary ts).andThen fun a s => next (.productTail a) s) = .ok e r := h
    have hr := ih.andThen h
    exact hr
  | productTail lhs => exact ih.goOn (expand_productTail.symm.trans h)
  | unary =>
    simp only [Rule.expand] at h
    split at h
    · obtain ⟨a, h, -⟩ := map_eq_ok.mp h
      have hr := ih h
      simp only [Rule.least, List.length_cons] at hr ⊢
      omega
    · have hr := ih h
      exact hr
  | primary =>
    simp only [Rule.expand] at h
    split at h
    · simp at h
    · simp_all [Rule.least]
    · simp_all [Rule.least]
    · simp_all [Rule.least]
    · rename_i us
      obtain ⟨a, s, h₁, h₂⟩ := andThen_eq_ok.mp h
      obtain ⟨-, h₂⟩ := closing_eq_ok.mp h₂
      have hs := ih h₁
      have hus := length_skipNewlines_le us
      have hr := length_skipNewlines_le s
      simp only [h₂, Rule.least, List.length_cons] at hs hr ⊢
      omega
    · rename_i name us
      have hus := length_skipNewlines_le us
      split at h
      · rename_i us' hus'
        obtain ⟨-, rfl⟩ := Reading.ok.inj h
        simp only [hus', Rule.least, List.length_cons] at hus ⊢
        omega
      · have hr := ih h
        simp only [Rule.least, List.length_cons] at hr ⊢
        omega
    · simp_all [Rule.least]
    · simp at h
  | arguments name before =>
    obtain ⟨a, s, h₁, h₂⟩ := andThen_eq_ok.mp h
    have hs := ih h₁
    have hskip := length_skipNewlines_le s
    split at h₂
    · simp at h₂
    · rename_i us hus
      have hr := ih h₂
      have hus' := length_skipNewlines_le us
      simp only [hus, Rule.least, List.length_cons] at hs hr hskip ⊢
      omega
    · rename_i us hus
      obtain ⟨-, rfl⟩ := Reading.ok.inj h₂
      simp only [hus, Rule.least, List.length_cons] at hs hskip ⊢
      omega
    · simp at h₂

theorem read_progresses (n : Nat) : Progresses (read n) := by
  induction n with
  | zero => intro rule ts e r h; simp [read] at h
  | succ n ih => exact expand_progresses ih

/-! ### Enough steps -/

/-- Steps that are enough for a rule: five for each token, and the way down to a literal. -/
def Rule.need (rule : Rule) (ts : List Token) : Nat :=
  5 * ts.length +
    match rule with
    | .sumTail _ | .productTail _ | .primary => 1
    | .unary => 2
    | .product => 3
    | .sum => 4
    | .arguments _ _ => 5

/-- What a rule needs is more with one token more in front. -/
theorem Rule.need_lt {rule rule' : Rule} {ts ts' : List Token} (h : ts'.length < ts.length) :
    rule'.need ts' < rule.need ts := by
  have hle : rule'.need ts' ≤ 5 * ts'.length + 5 := by
    cases rule' <;> simp [Rule.need]
  have hlt : 5 * ts.length < rule.need ts := by
    cases rule <;> simp [Rule.need]
  omega

/-- Two rules, one after the other, where the first takes a token. -/
theorem andThen_congr_next {next next' : Rule → List Token → Reading Expr} (hp : Progresses next)
    {rule rule' : Rule} {tail : Expr → Rule} {ts us : List Token} (hrule : rule'.least = 1)
    (hus : us.length ≤ ts.length) (hneed : rule'.need us < rule.need ts)
    (ih : ∀ {rule' ts'}, rule'.need ts' < rule.need ts → next rule' ts' = next' rule' ts') :
    ((next rule' us).andThen fun a s => next (tail a) s) =
      (next' rule' us).andThen fun a s => next' (tail a) s := by
  rw [← ih hneed]
  refine andThen_congr fun a s h => ih (Rule.need_lt ?_)
  have hs := hp h
  omega

theorem goOn_congr {next next' : Rule → List Token → Reading Expr} (hp : Progresses next)
    {a b : Char} {rule operand : Rule} {tail : Expr → Rule} {lhs : Expr} {ts : List Token}
    (hoperand : operand.least = 1)
    (ih : ∀ {rule' ts'}, rule'.need ts' < rule.need ts → next rule' ts' = next' rule' ts') :
    goOn next a b operand tail lhs ts = goOn next' a b operand tail lhs ts := by
  unfold goOn
  split
  · rename_i c us
    have hus := length_skipNewlines_le us
    refine ite_congr rfl (fun _ => ?_) fun _ => rfl
    exact andThen_congr_next hp hoperand (by simp; omega) (Rule.need_lt (by simp; omega)) ih
  · rfl

/-- A rule refers to others only where they need fewer steps. -/
theorem expand_congr {next next' : Rule → List Token → Reading Expr} (hp : Progresses next)
    {rule : Rule} {ts : List Token}
    (ih : ∀ {rule' ts'}, rule'.need ts' < rule.need ts → next rule' ts' = next' rule' ts') :
    rule.expand next ts = rule.expand next' ts := by
  cases rule with
  | sum =>
    exact andThen_congr_next hp rfl (Nat.le_refl _) (by simp [Rule.need]) ih
  | sumTail lhs => exact goOn_congr hp rfl ih
  | product =>
    exact andThen_congr_next hp rfl (Nat.le_refl _) (by simp [Rule.need]) ih
  | productTail lhs => exact goOn_congr hp rfl ih
  | unary =>
    simp only [Rule.expand]
    split
    · rw [ih (Rule.need_lt (by simp))]
    · exact ih (by simp [Rule.need])
  | primary =>
    simp only [Rule.expand]
    split
    any_goals rfl
    · rename_i us
      have hus := length_skipNewlines_le us
      rw [ih (Rule.need_lt (by simp; omega))]
    · rename_i name us
      have hus := length_skipNewlines_le us
      split
      · rfl
      · exact ih (Rule.need_lt (by simp; omega))
  | arguments name before =>
    simp only [Rule.expand]
    rw [← ih (by simp [Rule.need])]
    refine andThen_congr fun a s h => ?_
    have hs : s.length + 1 ≤ ts.length := hp h
    have hskip := length_skipNewlines_le s
    split
    any_goals rfl
    rename_i us hus
    have hus' := length_skipNewlines_le us
    rw [hus, List.length_cons] at hskip
    exact ih (Rule.need_lt (by omega))

/-- With enough steps, how many there are makes no difference. -/
theorem read_stable {n m : Nat} {rule : Rule} {ts : List Token} (hn : rule.need ts ≤ n)
    (hm : rule.need ts ≤ m) : read n rule ts = read m rule ts := by
  induction n generalizing m rule ts with
  | zero => cases rule <;> simp [Rule.need] at hn
  | succ n ih =>
    cases m with
    | zero => cases rule <;> simp [Rule.need] at hm
    | succ m =>
      exact expand_congr (read_progresses n) fun h => ih (by omega) (by omega)

/-- What a rule reads. -/
def Rule.reading (rule : Rule) (ts : List Token) : Reading Expr := read (rule.need ts) rule ts

theorem read_eq_reading {n : Nat} {rule : Rule} {ts : List Token} (h : rule.need ts ≤ n) :
    read n rule ts = rule.reading ts := read_stable h (Nat.le_refl _)

/-- A rule reads what its own text says. -/
theorem reading_eq_expand (rule : Rule) (ts : List Token) :
    rule.reading ts = rule.expand Rule.reading ts := by
  rw [← read_eq_reading (Nat.le_succ _), read]
  exact expand_congr (read_progresses _) fun h => read_eq_reading (Nat.le_of_lt h)

/-! ### Statements -/

theorem statement_eq_sum {ts : List Token} (h : ∀ x us, ts ≠ .ident x :: .assign :: us) :
    statement ts = Rule.sum.reading ts := by
  have hneed : Rule.sum.need ts ≤ nesting ts := by simp [Rule.need, nesting]
  unfold statement
  split
  · exact absurd rfl (h _ _)
  · exact read_eq_reading hneed

theorem statement_assign (x : String) (us : List Token) :
    statement (.ident x :: .assign :: us) =
      (Rule.sum.reading (skipNewlines us)).map (.assign x) := by
  have hlen := length_skipNewlines_le us
  have hneed : Rule.sum.need (skipNewlines us) ≤ nesting us := by simp [Rule.need, nesting]; omega
  rw [statement, read_eq_reading hneed]

end GuestRuntime.Mini
