import GuestRuntime.Proofs.Syntax.Appending
import GuestRuntime.Proofs.Syntax.Writing

/-!
What is incomplete can be completed. Where reading stops for want of tokens, an operand is due or
none, and some parentheses are open:

        f(-(x + ▏                 operand due, two open
        f(-(x + ▏ "" ) )          one way to go on

The tokens before the end were read, so what they derive they still derive with more behind them;
the rule that stopped is completed, and then each rule that is waiting for it. Main statement:
`program_completes`.
-/

namespace GuestRuntime.Mini

open Reading Token

/-- An operand if one is due, and closing parentheses. -/
def closers (due : Bool) (k : Nat) : List Token :=
  (if due then [.str ""] else []) ++ List.replicate k (.op ')')

variable {e : Expr} {es : List Expr} {ts us vs r : List Token} {p q : Expr → Phrase}

/-! ### Closing what is open -/

theorem closers_succ (due : Bool) (k : Nat) (r : List Token) :
    closers due (k + 1) ++ r = closers due k ++ .op ')' :: r := by
  simp [closers, List.replicate_succ']

/-- These tokens begin a phrase, and closers end it, whatever stands behind them. -/
def Completed (p : Expr → Phrase) (ts : List Token) : Prop :=
  ∃ due k e, ∀ r, Derives (p e) (ts ++ (closers due k ++ r)) r

/-- What is completed completes what it is part of. -/
theorem Completed.within (h : Completed p ts) (f : Expr → Expr)
    (hpq : ∀ e us r, Derives (p e) (ts ++ us) r → Derives (q (f e)) (vs ++ us) r) :
    Completed q vs := by
  obtain ⟨due, k, e, h⟩ := h
  exact ⟨due, k, f e, fun r => hpq e _ r (h r)⟩

/-- What a rule promises of tokens that it found incomplete; a tail promises it of an operand before
them, and a further argument of what is left of the call. -/
def Rule.Completes (ts : List Token) : Rule → Prop
  | .sum => Completed .sum ts
  | .sumTail lhs => ∀ us, Derives (.sum lhs) us ts → Completed .sum us
  | .product => Completed .product ts
  | .productTail lhs => ∀ us, Derives (.product lhs) us ts → Completed .product us
  | .unary => Completed .unary ts
  | .primary => Completed .primary ts
  | .arguments _ _ =>
    ∃ due k es, ∀ r, Derives (.arguments es) (ts ++ (closers due k ++ .op ')' :: r)) (.op ')' :: r)

/-- Every rule that finds its tokens incomplete can be completed. -/
def Completable (next : Rule → List Token → Reading Expr) : Prop :=
  ∀ {rule ts r}, next rule ts = .fail .incomplete r → rule.Completes ts

/-- Behind an operand that is derived, a tail that is incomplete stopped behind an operator: in the
operand it waits for, or in what comes behind that. -/
theorem completed_goOn {next : Rule → List Token → Reading Expr} (ih : Completable next)
    {a b : Char} {operand : Rule} {tail : Expr → Rule} {lhs : Expr}
    (hoperand : ∀ {ts}, operand.Completes ts → Completed q ts)
    (hsound : ∀ {e ts r}, next operand ts = .ok e r → Derives (q e) ts r)
    (htail : ∀ {e ts r}, (tail e).Completes r → Derives (p e) ts r → Completed p ts)
    (hbinary : ∀ {l e c ts us r} (k : Nat), c = a ∨ c = b →
      Derives (p l) ts (.op c :: (newlines k ++ us)) → Derives (q e) us r →
      Derives (p (.binary c l e)) ts r)
    (h : goOn next a b operand tail lhs ts = .fail .incomplete r) (hvs : Derives (p lhs) vs ts) :
    Completed p vs := by
  rcases goOn_cases next a b operand tail lhs ts with ⟨c, us, rfl, hc, heq⟩ | heq
  · obtain ⟨k, hk⟩ := exists_newlines us
    rw [hk] at hvs
    rcases andThen_eq_fail.mp (heq.symm.trans h) with h | ⟨x, s, h₁, h₂⟩
    · refine (hoperand (ih h)).within (.binary c lhs) fun e us r he => ?_
      exact hbinary k hc (by simpa using hvs.append us (by simp)) he
    · exact htail (ih h₂) (hbinary k hc hvs (hsound h₁))
  · cases heq.symm.trans h

/-- Inside parentheses: what they hold, or the closing one alone. -/
theorem completed_paren {next : Rule → List Token → Reading Expr} (hsound : Sound next)
    (ih : Completable next)
    (h : (next .sum (skipNewlines us)).andThen closing = .fail .incomplete r) :
    Completed .primary (.op '(' :: us) := by
  obtain ⟨j, hj⟩ := exists_newlines us
  rcases andThen_eq_fail.mp h with h | ⟨a, s, h₁, h₂⟩
  · obtain ⟨due, k, e, he⟩ := ih h
    refine ⟨due, k + 1, e, fun r => ?_⟩
    have hsum := Derives.paren j 0 (he (.op ')' :: r))
    rw [closers_succ, hj]
    simpa using hsum
  · obtain ⟨k, hk⟩ := exists_newlines s
    have hs : skipNewlines s = [] := by
      unfold closing at h₂
      split at h₂
      · assumption
      · cases h₂
      · cases h₂
    have hsum : Derives (.sum a) (skipNewlines us) s := hsound h₁
    refine ⟨false, 1, a, fun r => ?_⟩
    have happend := hsum.append (.op ')' :: r) (by simp)
    rw [hk, hs, List.append_nil] at happend
    have hparen := Derives.paren j k happend
    rw [hj]
    simpa [closers] using hparen

/-- Inside the parentheses of a call. -/
theorem completed_call {f : String} {before : List Expr}
    (h : (Rule.arguments f before).Completes (skipNewlines us)) :
    Completed .primary (.ident f :: .op '(' :: us) := by
  obtain ⟨j, hj⟩ := exists_newlines us
  obtain ⟨due, k, es, hes⟩ := h
  refine ⟨due, k + 1, .call f es, fun r => ?_⟩
  have hcall := Derives.call f j (hes r)
  rw [closers_succ, hj]
  simpa using hcall

/-- In an argument, or behind it: a further one, or none. -/
theorem completes_arguments {next : Rule → List Token → Reading Expr} (hsound : Sound next)
    (ih : Completable next) {f : String} {before : List Expr}
    (h : Rule.expand next (.arguments f before) ts = .fail .incomplete r) :
    (Rule.arguments f before).Completes ts := by
  rcases andThen_eq_fail.mp h with h | ⟨a, s, h₁, h₂⟩
  · obtain ⟨due, k, e, he⟩ := ih h
    exact ⟨due, k, [e], fun r => .last 0 (he _)⟩
  · have hsum : Derives (.sum a) ts s := hsound h₁
    obtain ⟨j, hj⟩ := exists_newlines s
    split at h₂
    · rename_i hs
      refine ⟨false, 0, [a], fun r => .last j ?_⟩
      have happend := hsum.append (.op ')' :: r) (by simp)
      rw [hj, hs, List.append_nil] at happend
      exact happend
    · rename_i us hs
      obtain ⟨i, hi⟩ := exists_newlines us
      obtain ⟨due, k, es, hes⟩ := ih h₂
      refine ⟨due, k, a :: es, fun r => .more j i ?_ (hes r)⟩
      have happend := hsum.append (closers due k ++ .op ')' :: r)
        (by rw [hj, hs]; simp)
      rw [hj, hs, hi] at happend
      simpa using happend
    · cases h₂
    · cases h₂

theorem expand_completes {next : Rule → List Token → Reading Expr} (hsound : Sound next)
    (ih : Completable next) : Completable (Rule.expand next) := by
  intro rule ts r h
  cases rule with
  | sum =>
    rcases andThen_eq_fail.mp h with h | ⟨a, s, h₁, h₂⟩
    · exact Completed.within (p := .product) (ih h) id fun e us r he => .product he
    · exact ih h₂ ts (.product (hsound h₁))
  | sumTail lhs =>
    intro vs hvs
    have htail {e us r} (h : (Rule.sumTail e).Completes r) (he : Derives (.sum e) us r) :
      Completed .sum us := h us he
    exact completed_goOn (q := .product) ih id hsound htail .add (expand_sumTail.symm.trans h) hvs
  | product =>
    rcases andThen_eq_fail.mp h with h | ⟨a, s, h₁, h₂⟩
    · exact Completed.within (p := .unary) (ih h) id fun e us r he => .unary he
    · exact ih h₂ ts (.unary (hsound h₁))
  | productTail lhs =>
    intro vs hvs
    have htail {e us r} (h : (Rule.productTail e).Completes r) (he : Derives (.product e) us r) :
      Completed .product us := h us he
    exact completed_goOn (q := .unary) ih id hsound htail .multiply
      (expand_productTail.symm.trans h) hvs
  | unary =>
    simp only [Rule.expand] at h
    split at h
    · rcases andThen_eq_fail.mp h with h | ⟨a, s, -, h₂⟩
      · exact Completed.within (p := .unary) (ih h) .neg fun e us r he => .neg he
      · cases h₂
    · exact Completed.within (p := .primary) (ih h) id fun e us r he => .primary he
  | primary =>
    simp only [Rule.expand] at h
    split at h
    · exact ⟨true, 0, .str "", fun r => .str "" r⟩
    · cases h
    · cases h
    · cases h
    · exact completed_paren hsound ih h
    · split at h
      · cases h
      · exact completed_call (ih h)
    · cases h
    · cases h
  | arguments f before => exact completes_arguments hsound ih h

theorem read_completes (n : Nat) : Completable (read n) := by
  induction n with
  | zero => intro rule ts r h; cases h
  | succ n ih => exact expand_completes (read_sound n) ih

/-! ### Statements and programs -/

theorem statement_completes (h : statement ts = .fail .incomplete r) :
    ∃ due k e, IsStatement e (ts ++ closers due k) [] := by
  unfold statement at h
  split at h
  · rename_i x us
    rcases andThen_eq_fail.mp h with h | ⟨a, s, -, h₂⟩
    · obtain ⟨j, hj⟩ := exists_newlines us
      obtain ⟨due, k, e, he⟩ := read_completes _ h
      refine ⟨due, k, .assign x e, ?_⟩
      have hassign := IsStatement.assign x j (he [])
      rw [hj]
      simpa using hassign
    · cases h₂
  · obtain ⟨due, k, e, he⟩ := read_completes _ h
    exact ⟨due, k, e, .sum (by simpa using he [])⟩

theorem statements_complete {n : Nat} (h : statements n ts = .error .incomplete) :
    ∃ due k es, IsProgram es (ts ++ closers due k) := by
  induction n generalizing ts with
  | zero => cases h
  | succ n ih =>
    obtain ⟨j, hj⟩ := exists_newlines ts
    unfold statements at h
    split at h
    · cases h
    · split at h
      · rename_i w s hs
        cases h
        obtain ⟨due, k, e, he⟩ := statement_completes hs
        refine ⟨due, k, [e], ?_⟩
        rw [hj, List.append_assoc]
        exact .some j 0 (.one he)
      · rename_i e s hs
        split at h
        · cases h
        · rename_i us
          obtain ⟨due, k, es, hes⟩ := ih (except_map_eq_error.mp h)
          refine ⟨due, k, e :: es, ?_⟩
          have he := (statement_sound hs).append (closers due k) (by simp)
          rw [hj, List.append_assoc]
          exact hes.cons he j
        · cases h

/-! ### Closers as text -/

theorem areSpellable_closers (due : Bool) (k : Nat) : AreSpellable (closers due k) := by
  have hdue : AreSpellable (if due then [.str ""] else []) := by
    cases due with
    | true => exact areSpellable_singleton (.str (.inl rfl) "")
    | false => simp [AreSpellable]
  refine areSpellable_append hdue fun t ht => ?_
  rw [List.eq_of_mem_replicate ht]
  exact ⟨_, .op (by decide)⟩

/-- None of them is read as far as it goes. -/
theorem separate_closers (due : Bool) (k : Nat) : Separate (closers due k) := by
  refine List.Pairwise.isChain (List.pairwise_of_forall_mem_list fun t ht _ _ => .inl ?_)
  rcases List.mem_append.mp ht with ht | ht
  · cases due with
    | true => rw [List.mem_singleton.mp ht]; rfl
    | false => cases ht
  · rw [List.eq_of_mem_replicate ht]
    rfl

theorem exists_lex_closers (due : Bool) (k : Nat) : ∃ text, lex text = .ok (closers due k) := by
  obtain ⟨text, htext⟩ := (areSpellable_closers due k).exists_spells
  exact ⟨text, lex_spells htext (separate_closers due k)⟩

/-- Incomplete tokens go on to a program. So where a text is incomplete though all of it was read as
tokens, another begins with these tokens, has more of them, and is a program. -/
theorem program_completes :
    (∀ ts, program ts = .error .incomplete → ∃ us es, program (ts ++ us) = .ok es) ∧
      ∀ source ts, lex source = .ok ts → parse source = .error .incomplete →
        ∃ us text es, us ≠ [] ∧ lex text = .ok (ts ++ us) ∧ parse text = .ok es := by
  refine ⟨fun ts h => ?_, fun source ts hlex h => ?_⟩
  · obtain ⟨due, k, es, hes⟩ := statements_complete h
    exact ⟨closers due k, es, hes.isRead⟩
  · have hts : program ts = .error .incomplete := by simpa [parse, hlex] using h
    obtain ⟨due, k, es, hes⟩ := statements_complete hts
    obtain ⟨before, hbefore⟩ := exists_between hlex
    obtain ⟨text, htext⟩ := exists_lex_closers due k
    have hall : lex (before ++ text) = .ok (ts ++ closers due k) := by rw [hbefore, htext]; rfl
    refine ⟨closers due k, before ++ text, es, fun hnil => ?_, hall, ?_⟩
    · have hok := hes.isRead
      rw [hnil, List.append_nil, hts] at hok
      cases hok
    · rw [parse, hall]
      exact hes.isRead

/-- An operand is due inside a call, and a comment stands behind. -/
theorem program_completes_call :
    program [.ident "f", .op '(', .op '-'] = .error .incomplete ∧
      (∃ us es, program ([.ident "f", .op '(', .op '-'] ++ us) = .ok es) ∧
      ∃ us text es, us ≠ [] ∧ lex text = .ok ([.ident "f", .op '(', .op '-'] ++ us) ∧
        parse text = .ok es :=
  ⟨rfl, program_completes.1 _ rfl, program_completes.2 "f(- # x".toList _ rfl rfl⟩

end GuestRuntime.Mini
