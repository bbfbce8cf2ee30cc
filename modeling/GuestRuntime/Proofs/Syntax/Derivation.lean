import GuestRuntime.Proofs.Syntax.Reading

/-!
The grammar as derivations. A phrase stands at the front of a token list with something behind it;
the rules are those of the grammar and say nothing of how to find a derivation. What a rule reads is
derived, and what is derived is read where no operator behind it lets a loop go on. Main statements:
`read_sound` and `Derives.isRead`.
-/

namespace GuestRuntime.Mini

open Reading

/-- A run of newlines. -/
def newlines (k : Nat) : List Token := List.replicate k .newline

/-- What can be derived: one expression at a level of the grammar, or an argument list. -/
inductive Phrase
  | sum (e : Expr)
  | product (e : Expr)
  | unary (e : Expr)
  | primary (e : Expr)
  /-- At least one argument, and the newlines behind the last. -/
  | arguments (es : List Expr)

/-- `Derives p ts r`: the tokens of `ts` in front of `r` are the phrase `p`. -/
inductive Derives : Phrase → List Token → List Token → Prop
  | product {e ts r} : Derives (.product e) ts r → Derives (.sum e) ts r
  | add {l e c ts us r} (k : Nat) : c = '+' ∨ c = '-' →
    Derives (.sum l) ts (.op c :: (newlines k ++ us)) → Derives (.product e) us r →
    Derives (.sum (.binary c l e)) ts r
  | unary {e ts r} : Derives (.unary e) ts r → Derives (.product e) ts r
  | multiply {l e c ts us r} (k : Nat) : c = '*' ∨ c = '/' →
    Derives (.product l) ts (.op c :: (newlines k ++ us)) → Derives (.unary e) us r →
    Derives (.product (.binary c l e)) ts r
  | neg {e ts r} : Derives (.unary e) ts r → Derives (.unary (.neg e)) (.op '-' :: ts) r
  | primary {e ts r} : Derives (.primary e) ts r → Derives (.unary e) ts r
  | num (x : Double) (r : List Token) : Derives (.primary (.num x)) (.num x :: r) r
  | int (n : Int) (r : List Token) : Derives (.primary (.int n)) (.int n :: r) r
  | str (s : String) (r : List Token) : Derives (.primary (.str s)) (.str s :: r) r
  | paren {e ts r} (j k : Nat) : Derives (.sum e) ts (newlines k ++ .op ')' :: r) →
    Derives (.primary e) (.op '(' :: (newlines j ++ ts)) r
  | name {r} (x : String) : r.head? ≠ some (.op '(') →
    Derives (.primary (.ofName x)) (.ident x :: r) r
  | callEmpty (f : String) (k : Nat) (r : List Token) :
    Derives (.primary (.call f [])) (.ident f :: .op '(' :: (newlines k ++ .op ')' :: r)) r
  | call {es ts r} (f : String) (k : Nat) : Derives (.arguments es) ts (.op ')' :: r) →
    Derives (.primary (.call f es)) (.ident f :: .op '(' :: (newlines k ++ ts)) r
  | last {e ts r} (k : Nat) : Derives (.sum e) ts (newlines k ++ r) → Derives (.arguments [e]) ts r
  | more {e es ts us r} (j k : Nat) :
    Derives (.sum e) ts (newlines j ++ .op ',' :: (newlines k ++ us)) →
    Derives (.arguments es) us r → Derives (.arguments (e :: es)) ts r

/-! ### Newlines -/

@[simp] theorem skipNewlines_nil : skipNewlines [] = [] := rfl

@[simp] theorem skipNewlines_newline (ts : List Token) :
    skipNewlines (.newline :: ts) = skipNewlines ts := rfl

@[simp] theorem skipNewlines_newlines (k : Nat) (ts : List Token) :
    skipNewlines (newlines k ++ ts) = skipNewlines ts := by
  induction k with
  | zero => rfl
  | succ k ih => exact ih

theorem skipNewlines_cons {t : Token} (h : t ≠ .newline) (ts : List Token) :
    skipNewlines (t :: ts) = t :: ts := by
  simp [skipNewlines, h]

/-- What is skipped is a run of newlines. -/
theorem exists_newlines (ts : List Token) : ∃ k, ts = newlines k ++ skipNewlines ts := by
  induction ts with
  | nil => exact ⟨0, rfl⟩
  | cons t ts ih =>
    by_cases h : t = .newline
    · obtain ⟨k, hk⟩ := ih
      refine ⟨k + 1, ?_⟩
      rw [h, skipNewlines_newline]
      exact congrArg (Token.newline :: ·) hk
    · exact ⟨0, (skipNewlines_cons h ts).symm⟩

/-! ### What is read is derived -/

/-- What a rule promises of the tokens it reads; a tail promises it of an operand before it. -/
def Rule.Yields (e : Expr) (ts r : List Token) : Rule → Prop
  | .sum => Derives (.sum e) ts r
  | .sumTail lhs => ∀ us, Derives (.sum lhs) us ts → Derives (.sum e) us r
  | .product => Derives (.product e) ts r
  | .productTail lhs => ∀ us, Derives (.product lhs) us ts → Derives (.product e) us r
  | .unary => Derives (.unary e) ts r
  | .primary => Derives (.primary e) ts r
  | .arguments f before =>
    ∃ es, e = .call f (before ++ es) ∧ Derives (.arguments es) ts (.op ')' :: r)

/-- Every rule that is read keeps its promise. -/
def Sound (next : Rule → List Token → Reading Expr) : Prop :=
  ∀ {rule ts e r}, next rule ts = .ok e r → rule.Yields e ts r

/-- Behind an operand that is derived, what a tail reads is derived with it. -/
theorem derives_goOn {next : Rule → List Token → Reading Expr} {p q : Expr → Phrase} {a b : Char}
    {operand : Rule} {tail : Expr → Rule} {lhs e : Expr} {us ts r : List Token}
    (hoperand : ∀ {e ts r}, next operand ts = .ok e r → Derives (q e) ts r)
    (htail : ∀ {e e' us ts r}, next (tail e) ts = .ok e' r → Derives (p e) us ts →
      Derives (p e') us r)
    (hbinary : ∀ {l e c ts us r} (k : Nat), c = a ∨ c = b →
      Derives (p l) ts (.op c :: (newlines k ++ us)) → Derives (q e) us r →
      Derives (p (.binary c l e)) ts r)
    (h : goOn next a b operand tail lhs ts = .ok e r) (hus : Derives (p lhs) us ts) :
    Derives (p e) us r := by
  rcases goOn_cases next a b operand tail lhs ts with ⟨c, vs, rfl, hc, heq⟩ | heq
  · obtain ⟨x, s, h₁, h₂⟩ := andThen_eq_ok.mp (heq.symm.trans h)
    obtain ⟨k, hk⟩ := exists_newlines vs
    rw [hk] at hus
    exact htail h₂ (hbinary k hc hus (hoperand h₁))
  · cases heq.symm.trans h
    exact hus

theorem expand_sound {next : Rule → List Token → Reading Expr} (ih : Sound next) :
    Sound (Rule.expand next) := by
  intro rule ts e r h
  cases rule with
  | sum =>
    obtain ⟨a, s, h₁, h₂⟩ := andThen_eq_ok.mp h
    exact ih h₂ ts (.product (ih h₁))
  | sumTail lhs =>
    intro vs hvs
    have htail {x y us ts r} (h : next (.sumTail x) ts = .ok y r) (hus : Derives (.sum x) us ts) :
      Derives (.sum y) us r := ih h us hus
    exact derives_goOn (q := .product) ih htail .add (expand_sumTail.symm.trans h) hvs
  | product =>
    obtain ⟨a, s, h₁, h₂⟩ := andThen_eq_ok.mp h
    exact ih h₂ ts (.unary (ih h₁))
  | productTail lhs =>
    intro vs hvs
    have htail {x y us ts r} (h : next (.productTail x) ts = .ok y r)
      (hus : Derives (.product x) us ts) : Derives (.product y) us r := ih h us hus
    exact derives_goOn (q := .unary) ih htail .multiply (expand_productTail.symm.trans h) hvs
  | unary =>
    simp only [Rule.expand] at h
    split at h
    · obtain ⟨a, ha, rfl⟩ := map_eq_ok.mp h
      exact .neg (ih ha)
    · exact .primary (ih h)
  | primary =>
    simp only [Rule.expand] at h
    split at h
    · cases h
    · cases h
      exact .num _ _
    · cases h
      exact .int _ _
    · cases h
      exact .str _ _
    · rename_i us
      obtain ⟨a, s, h₁, h₂⟩ := andThen_eq_ok.mp h
      obtain ⟨rfl, hs⟩ := closing_eq_ok.mp h₂
      obtain ⟨j, hj⟩ := exists_newlines us
      obtain ⟨k, hk⟩ := exists_newlines s
      rw [hj]
      refine .paren j k ?_
      rw [← hs, ← hk]
      exact ih h₁
    · rename_i f us
      obtain ⟨k, hk⟩ := exists_newlines us
      rw [hk]
      split at h
      · rename_i hus
        cases h
        rw [hus]
        exact .callEmpty f k r
      · obtain ⟨es, rfl, hes⟩ := ih h
        exact .call f k hes
    · rename_i x _ hx
      cases h
      refine .name x ?_
      cases r with
      | nil => simp
      | cons t us => simpa using fun ht => hx us (by rw [ht])
    · cases h
  | arguments f before =>
    obtain ⟨a, s, h₁, h₂⟩ := andThen_eq_ok.mp h
    obtain ⟨j, hj⟩ := exists_newlines s
    have hs := ih h₁
    rw [hj] at hs
    split at h₂
    · cases h₂
    · rename_i us hus
      obtain ⟨k, hk⟩ := exists_newlines us
      obtain ⟨es, rfl, hes⟩ := ih h₂
      rw [hus, hk] at hs
      exact ⟨a :: es, by simp, .more j k hs hes⟩
    · rename_i us hus
      cases h₂
      rw [hus] at hs
      exact ⟨[a], rfl, .last j hs⟩
    · cases h₂

theorem read_sound (n : Nat) : Sound (read n) := by
  induction n with
  | zero => intro rule ts e r h; cases h
  | succ n ih => exact expand_sound ih

/-! ### What is derived is read -/

/-- A phrase begins with a token that neither skipping newlines nor an argument list's end takes. -/
theorem Derives.begins {p : Phrase} {ts r : List Token} (h : Derives p ts r) :
    ∃ t us, ts = t :: us ∧ t ≠ .newline ∧ t ≠ .op ')' := by
  induction h with
  | product _ ih | add _ _ _ _ ih | unary _ ih | multiply _ _ _ _ ih | primary _ ih => exact ih
  | last _ _ ih | more _ _ _ _ ih => exact ih
  | _ => exact ⟨_, _, rfl, by simp, by simp⟩

theorem Derives.skipNewlines_eq {p : Phrase} {ts r : List Token} (h : Derives p ts r) :
    skipNewlines ts = ts := by
  obtain ⟨t, us, rfl, ht, -⟩ := h.begins
  exact skipNewlines_cons ht us

/-- Behind a name that is assigned to, no phrase goes on. -/
theorem Derives.rest_of_assign {p : Phrase} {x : String} {us ts r : List Token} (h : Derives p ts r)
    (hts : ts = .ident x :: .assign :: us) : r = .assign :: us := by
  induction h with
  | product _ ih | unary _ ih | primary _ ih => exact ih hts
  | add _ _ _ _ ih | multiply _ _ _ _ ih => cases ih hts
  | last k _ ih =>
    cases k with
    | zero => exact ih hts
    | succ k => cases ih hts
  | more j _ _ _ ih =>
    cases j with
    | zero => cases ih hts
    | succ j => cases ih hts
  | name => simp_all
  | _ => cases hts

theorem Derives.length_lt {p : Phrase} {ts r : List Token} (h : Derives p ts r) :
    r.length < ts.length := by
  induction h with
  | product _ ih | unary _ ih | primary _ ih => exact ih
  | _ => simp_all <;> omega

/-- None of these operators stands at the front. -/
def NoOperator (cs : List Char) (ts : List Token) : Prop := ∀ c ∈ cs, ts.head? ≠ some (.op c)

theorem noOperator_newlines {cs : List Char} {ts : List Token} (h : NoOperator cs ts) (k : Nat) :
    NoOperator cs (newlines k ++ ts) := by
  cases k with
  | zero => exact h
  | succ k => intro c _; simp [newlines, List.replicate_succ]

theorem noOperator_op {cs : List Char} {c : Char} (h : c ∉ cs) (ts : List Token) :
    NoOperator cs (.op c :: ts) := by
  intro b hb hc
  cases hc
  exact h hb

theorem goOn_stops {a b : Char} {ts : List Token} (h : NoOperator [a, b] ts)
    (next : Rule → List Token → Reading Expr) (operand : Rule) (tail : Expr → Rule) (lhs : Expr) :
    goOn next a b operand tail lhs ts = .ok lhs ts := by
  rcases goOn_cases next a b operand tail lhs ts with ⟨c, us, rfl, rfl | rfl, -⟩ | heq
  · exact absurd rfl (h c (by simp))
  · exact absurd rfl (h c (by simp))
  · exact heq

theorem sumTail_stops {ts : List Token} (h : NoOperator ['+', '-'] ts) (e : Expr) :
    (Rule.sumTail e).reading ts = .ok e ts :=
  (reading_eq_expand _ _).trans (goOn_stops h _ _ _ e)

theorem productTail_stops {ts : List Token} (h : NoOperator ['*', '/'] ts) (e : Expr) :
    (Rule.productTail e).reading ts = .ok e ts :=
  (reading_eq_expand _ _).trans (goOn_stops h _ _ _ e)

/-- How a derived phrase is read: the loops of sums and products go on behind it. -/
def Phrase.IsRead (ts r : List Token) : Phrase → Prop
  | .sum e => NoOperator ['*', '/'] r → Rule.sum.reading ts = (Rule.sumTail e).reading r
  | .product e => Rule.product.reading ts = (Rule.productTail e).reading r
  | .unary e => Rule.unary.reading ts = .ok e r
  | .primary e => Rule.primary.reading ts = .ok e r
  | .arguments es => ∀ f before us, r = .op ')' :: us →
    (Rule.arguments f before).reading ts = .ok (.call f (before ++ es)) us

theorem Derives.isRead {p : Phrase} {ts r : List Token} (h : Derives p ts r) : p.IsRead ts r := by
  induction h with
  | product _ ih =>
    intro hr
    rw [reading_eq_expand, Rule.expand, ih, productTail_stops hr, andThen_ok]
  | @add l e c ts us r k hc _ hd ihl ihe =>
    intro hr
    rw [ihl (noOperator_op (by rcases hc with rfl | rfl <;> decide) _), reading_eq_expand,
      Rule.expand]
    simp only [if_pos hc, skipNewlines_newlines, hd.skipNewlines_eq]
    rw [ihe, productTail_stops hr, andThen_ok]
  | unary _ ih => rw [Phrase.IsRead, reading_eq_expand, Rule.expand, ih, andThen_ok]
  | @multiply l e c ts us r k hc _ hd ihl ihe =>
    rw [Phrase.IsRead, ihl, reading_eq_expand, Rule.expand]
    simp only [if_pos hc, skipNewlines_newlines, hd.skipNewlines_eq]
    rw [ihe, andThen_ok]
  | neg _ ih => rw [Phrase.IsRead, reading_eq_expand, Rule.expand, ih]; rfl
  | primary hd ih =>
    rw [Phrase.IsRead, reading_eq_expand, ← ih]
    cases hd <;> rfl
  | num | int | str => rfl
  | paren j k hd ih =>
    rw [Phrase.IsRead, reading_eq_expand]
    simp only [Rule.expand, skipNewlines_newlines, hd.skipNewlines_eq]
    rw [ih (noOperator_newlines (noOperator_op (by decide) _) k),
      sumTail_stops (noOperator_newlines (noOperator_op (by decide) _) k), andThen_ok,
      closing_eq_ok]
    simp [skipNewlines_cons]
  | @name r x hr =>
    rw [Phrase.IsRead, reading_eq_expand]
    cases r with
    | nil => rfl
    | cons t us =>
      have ht : t ≠ .op '(' := by simpa using hr
      simp [Rule.expand, ht]
  | callEmpty f k r =>
    rw [Phrase.IsRead, reading_eq_expand]
    simp [Rule.expand, skipNewlines_cons]
  | @call es ts r f k hd ih =>
    obtain ⟨t, us, rfl, ht, hp⟩ := hd.begins
    rw [Phrase.IsRead, reading_eq_expand]
    simp only [Rule.expand, skipNewlines_newlines, skipNewlines_cons ht]
    split
    · simp_all
    · exact ih f [] r rfl
  | @last e ts r k hd ih =>
    rintro f before us rfl
    have hr {cs : List Char} (h : ')' ∉ cs) := noOperator_newlines (noOperator_op h us) k
    rw [reading_eq_expand, Rule.expand, ih (hr (by decide)), sumTail_stops (hr (by decide)),
      andThen_ok, skipNewlines_newlines, skipNewlines_cons (by simp)]
    rfl
  | @more e es ts us r j k hd hds ih ihs =>
    rintro f before vs rfl
    have hr {cs : List Char} (h : ',' ∉ cs) :=
      noOperator_newlines (noOperator_op h (newlines k ++ us)) j
    rw [reading_eq_expand, Rule.expand, ih (hr (by decide)), sumTail_stops (hr (by decide)),
      andThen_ok, skipNewlines_newlines, skipNewlines_cons (by simp)]
    simp only [skipNewlines_newlines, hds.skipNewlines_eq]
    rw [ihs f (before ++ [e]) vs rfl, List.append_assoc, List.singleton_append]

end GuestRuntime.Mini
