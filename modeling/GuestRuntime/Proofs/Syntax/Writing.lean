import GuestRuntime.Proofs.Syntax.Program
import GuestRuntime.Proofs.Syntax.Spelling

/-!
Expressions as source text. An operand stands in a place, and a place says how tightly what stands
there must bind:

        place 0     a + b     a - b
        place 1     a * b     a / b
        place 2     -a, a name, a literal, a call, anything in parentheses

What binds less tightly goes into parentheses there, and anything may. The left operand of an
operator stands in the operator's own place, the right one in the next. Main statements:
`parse_source`, and `IsWritable.exists_source` for the trees that have a source.
-/

namespace GuestRuntime.Mini

open Token

/-- The place of what an operator makes. -/
def precedence (c : Char) : Nat := if c = '*' ∨ c = '/' then 1 else 0

/-- What is written: an operand in its place, or arguments with commas between them. -/
inductive Piece
  | operand (place : Nat) (e : Expr)
  | arguments (es : List Expr)

/-- The ways to write a tree as tokens. -/
inductive Writes : Piece → List Token → Prop
  | num (p : Nat) (x : Double) : Writes (.operand p (.num x)) [.num x]
  | int (p : Nat) (n : Int) : Writes (.operand p (.int n)) [.int n]
  | str (p : Nat) (s : String) : Writes (.operand p (.str s)) [.str s]
  | lgl (p : Nat) (b : Bool) : Writes (.operand p (.lgl b)) [.ident (if b then "TRUE" else "FALSE")]
  | null (p : Nat) : Writes (.operand p .null) [.ident "NULL"]
  | ident {x} (p : Nat) (hx : x ∉ ["TRUE", "FALSE", "NULL"]) :
    Writes (.operand p (.ident x)) [.ident x]
  | neg {p e ts} (hp : p ≤ 2) : Writes (.operand 2 e) ts →
    Writes (.operand p (.neg e)) (.op '-' :: ts)
  | binary {p c l e ts us} (hc : c ∈ ['+', '-', '*', '/']) (hp : p ≤ precedence c) :
    Writes (.operand (precedence c) l) ts → Writes (.operand (precedence c + 1) e) us →
    Writes (.operand p (.binary c l e)) (ts ++ .op c :: us)
  | call {es ts} (p : Nat) (f : String) : Writes (.arguments es) ts →
    Writes (.operand p (.call f es)) (.ident f :: .op '(' :: (ts ++ [.op ')']))
  | paren {e ts} (p : Nat) : Writes (.operand 0 e) ts →
    Writes (.operand p e) (.op '(' :: (ts ++ [.op ')']))
  | none : Writes (.arguments []) []
  | one {e ts} : Writes (.operand 0 e) ts → Writes (.arguments [e]) ts
  | more {e d es ts us} : Writes (.operand 0 e) ts → Writes (.arguments (d :: es)) us →
    Writes (.arguments (e :: d :: es)) (ts ++ .op ',' :: us)

/-- The source texts of a tree, which may be one assignment. -/
inductive IsSource : Expr → List Char → Prop
  | operand {e ts text} : Writes (.operand 0 e) ts → Spells ts text → IsSource e text
  | assign {x e ts text} : Writes (.operand 0 e) ts → Spells (.ident x :: .assign :: ts) text →
    IsSource (.assign x e) text

/-- The trees with a source: an operand's, or one assignment of an operand. -/
inductive Expr.IsWritable : Expr → Prop
  | num {t x} (ht : IsNumeral t) (hx : number? t = some x) : IsWritable (.num x)
  | int {n} (hn : n ≤ maxInteger) : IsWritable (.int (n : Nat))
  | str (s : String) : IsWritable (.str s)
  | lgl (b : Bool) : IsWritable (.lgl b)
  | null : IsWritable .null
  | ident {x} (hx : IsName x) (hword : x ∉ ["TRUE", "FALSE", "NULL"]) : IsWritable (.ident x)
  | neg {e} (he : IsWritable e) : IsWritable (.neg e)
  | binary {c l e} (hc : c ∈ ['+', '-', '*', '/']) (hl : IsWritable l) (he : IsWritable e) :
    IsWritable (.binary c l e)
  | call {f es} (hf : IsName f) (hes : ∀ e ∈ es, IsWritable e) : IsWritable (.call f es)

variable {e : Expr} {es : List Expr} {ts us r : List Token} {text : List Char}

/-! ### What is written is derived -/

/-- The phrase that stands in a place. -/
def phraseAt : Nat → Expr → Phrase
  | 0, e => .sum e
  | 1, e => .product e
  | _, e => .unary e

theorem Derives.loosen {p q : Nat} (hpq : p ≤ q) (h : Derives (phraseAt q e) ts r) :
    Derives (phraseAt p e) ts r := by
  match p, q with
  | 0, 0 | 1, 1 | _ + 2, _ + 2 => exact h
  | 0, 1 => exact .product h
  | 0, _ + 2 => exact .product (.unary h)
  | 1, _ + 2 => exact .unary h
  | _ + 1, 0 | _ + 2, 1 => omega

theorem Derives.primaryAt (p : Nat) (h : Derives (.primary e) ts r) :
    Derives (phraseAt p e) ts r :=
  loosen (Nat.le_add_right p 2) (.primary h)

theorem Derives.binaryAt {c : Char} {l : Expr} (hc : c ∈ ['+', '-', '*', '/'])
    (hl : Derives (phraseAt (precedence c) l) ts (.op c :: us))
    (he : Derives (phraseAt (precedence c + 1) e) us r) :
    Derives (phraseAt (precedence c) (.binary c l e)) ts r := by
  simp only [List.mem_cons, List.not_mem_nil, or_false] at hc
  rcases hc with rfl | rfl | rfl | rfl
  · exact .add 0 (.inl rfl) hl he
  · exact .add 0 (.inr rfl) hl he
  · exact .multiply 0 (.inl rfl) hl he
  · exact .multiply 0 (.inr rfl) hl he

theorem Derives.ofNameAt {x : String} (p : Nat) (hr : r.head? ≠ some (.op '('))
    (hx : Expr.ofName x = e) : Derives (phraseAt p e) (.ident x :: r) r :=
  .primaryAt p (hx ▸ .name x hr)

/-- What the grammar has for a piece, whatever stands behind it; only a name must not be taken for
a call. -/
def Piece.IsDerived (ts : List Token) : Piece → Prop
  | .operand p e => ∀ r, r.head? ≠ some (.op '(') → Derives (phraseAt p e) (ts ++ r) r
  | .arguments [] => ts = []
  | .arguments es => ∀ r, Derives (.arguments es) (ts ++ .op ')' :: r) (.op ')' :: r)

theorem Writes.isDerived {piece : Piece} (h : Writes piece ts) : piece.IsDerived ts := by
  induction h with
  | num p x => exact fun r _ => .primaryAt p (.num x r)
  | int p n => exact fun r _ => .primaryAt p (.int n r)
  | str p s => exact fun r _ => .primaryAt p (.str s r)
  | lgl p b => exact fun r hr => .ofNameAt p hr (by cases b <;> rfl)
  | null p => exact fun r hr => .ofNameAt p hr rfl
  | ident p hx =>
    refine fun r hr => .ofNameAt p hr ?_
    simp only [List.mem_cons, List.not_mem_nil, or_false, not_or] at hx
    simp [Expr.ofName, hx]
  | neg hp _ ih => exact fun r hr => .loosen hp (.neg (ih r hr))
  | @binary p c l e ts us hc hp _ _ ihl ihe =>
    intro r hr
    have hop : (Token.op c :: (us ++ r)).head? ≠ some (.op '(') := by
      rintro ⟨⟩
      exact absurd hc (by decide)
    rw [List.append_assoc, List.cons_append]
    exact .loosen hp (.binaryAt hc (ihl _ hop) (ihe r hr))
  | @call es ts p f _ ih =>
    intro r _
    rw [List.cons_append, List.cons_append, List.append_assoc]
    cases es with
    | nil =>
      cases ih
      exact .primaryAt p (.callEmpty f 0 r)
    | cons d es => exact .primaryAt p (.call f 0 (ih r))
  | paren p _ ih =>
    intro r _
    rw [List.cons_append, List.append_assoc]
    exact .primaryAt p (.paren 0 0 (ih _ (by simp)))
  | none => rfl
  | one _ ih => exact fun r => .last 0 (ih _ (by simp))
  | @more e d es ts us _ _ ihe ihs =>
    intro r
    rw [List.append_assoc, List.cons_append]
    exact .more 0 0 (ihe _ (by simp)) (ihs r)

/-! ### What is written is read back -/

theorem separate_op_cons {c : Char} (h : Separate ts) : Separate (.op c :: ts) :=
  List.isChain_cons.mpr ⟨fun _ _ => .inl rfl, h⟩

theorem separate_append_op {c : Char} (hts : Separate ts) (hus : Separate us) :
    Separate (ts ++ .op c :: us) := by
  refine List.isChain_append.mpr ⟨hts, separate_op_cons hus, fun t _ u hu => .inr ?_⟩
  cases hu
  rfl

theorem Writes.separate {piece : Piece} (h : Writes piece ts) : Separate ts := by
  induction h with
  | num | int | str | lgl | null | ident => exact .singleton _
  | none => exact .nil
  | one _ ih => exact ih
  | neg _ _ ih => exact separate_op_cons ih
  | binary _ _ _ _ ihl ihe | more _ _ ihl ihe => exact separate_append_op ihl ihe
  | paren _ _ ih => exact separate_op_cons (separate_append_op ih .nil)
  | call _ f _ ih =>
    have hname : Separate [.ident f] := .singleton _
    exact separate_append_op hname (separate_append_op ih .nil)

theorem Writes.derives_sum (h : Writes (.operand 0 e) ts) : Derives (.sum e) ts [] := by
  simpa [phraseAt] using h.isDerived [] (by simp)

theorem isProgram_one (h : IsStatement e ts []) : IsProgram [e] ts := .some 0 0 (.one h)

/-- A tree that was written as source text is read back from it, and nothing else is. -/
theorem parse_source (h : IsSource e text) : parse text = .ok [e] := by
  rw [parse]
  cases h with
  | operand hw ht =>
    rw [lex_spells ht hw.separate]
    exact (isProgram_one (.sum hw.derives_sum)).isRead
  | @assign x e ts text hw ht =>
    have hseparate : Separate (.ident x :: .assign :: ts) :=
      List.isChain_cons.mpr ⟨fun t ht => by cases ht; exact .inr rfl,
        List.isChain_cons.mpr ⟨fun _ _ => .inl rfl, hw.separate⟩⟩
    rw [lex_spells ht hseparate]
    exact (isProgram_one (.assign x 0 hw.derives_sum)).isRead

/-- A redundant pair of parentheses, blanks of two kinds and a quote in a string. -/
theorem parse_source_product :
    IsSource (.binary '*' (.neg (.ident "x")) (.str "it's")) "(-x) *\t'it\\'s'".toList ∧
      parse "(-x) *\t'it\\'s'".toList = .ok [.binary '*' (.neg (.ident "x")) (.str "it's")] := by
  have hleft : Writes (.operand 1 (.neg (.ident "x"))) [.op '(', .op '-', .ident "x", .op ')'] :=
    .paren 1 (.neg (by decide) (.ident 2 (by decide)))
  have hw : Writes (.operand 0 (.binary '*' (.neg (.ident "x")) (.str "it's")))
      [.op '(', .op '-', .ident "x", .op ')', .op '*', .str "it's"] :=
    .binary (c := '*') (by decide) (by decide) hleft (.str 2 _)
  have hx : IsName "x" := ⟨'x', [], rfl, by decide, by simp⟩
  have none : ∀ b ∈ [], IsBlank b := by simp
  have one {c : Char} (hc : IsBlank c) : ∀ b ∈ [c], IsBlank b := by simpa using hc
  have ht : Spells [.op '(', .op '-', .ident "x", .op ')', .op '*', .str "it's"]
      "(-x) *\t'it\\'s'".toList :=
    .cons none (.op (by decide)) <|
    .cons none (.op (by decide)) <|
    .cons none (.ident hx) <|
    .cons none (.op (by decide)) <|
    .cons (one (.inl rfl)) (.op (by decide)) <|
    .cons (one (.inr (.inl rfl))) (.str (.inr rfl) "it's") <|
    .nil (by simp)
  exact ⟨.operand hw ht, parse_source (.operand hw ht)⟩

/-- An assignment is a statement, no operand: in parentheses it is an error. -/
example : parse "(x <- 1)".toList = .error .error := rfl

/-! ### What can be written -/

/-- Each of the tokens has a spelling. -/
def AreSpellable (ts : List Token) : Prop := ∀ t ∈ ts, ∃ w, IsSpelled t w

theorem AreSpellable.exists_spells (h : AreSpellable ts) : ∃ text, Spells ts text := by
  induction ts with
  | nil => exact ⟨[], .nil (by simp)⟩
  | cons t ts ih =>
    obtain ⟨w, hw⟩ := h t List.mem_cons_self
    obtain ⟨text, htext⟩ := ih fun u hu => h u (List.mem_cons_of_mem t hu)
    exact ⟨[] ++ (w ++ text), .cons (by simp) hw htext⟩

theorem areSpellable_append (hts : AreSpellable ts) (hus : AreSpellable us) :
    AreSpellable (ts ++ us) :=
  fun t ht => (List.mem_append.mp ht).elim (hts t) (hus t)

theorem areSpellable_cons {t : Token} {w : List Char} (ht : IsSpelled t w) (hts : AreSpellable ts) :
    AreSpellable (t :: ts) :=
  List.forall_mem_cons.mpr ⟨⟨w, ht⟩, hts⟩

theorem areSpellable_singleton {t : Token} {w : List Char} (ht : IsSpelled t w) :
    AreSpellable [t] :=
  areSpellable_cons ht (by simp [AreSpellable])

/-- An operator between what has a spelling. -/
theorem areSpellable_append_op {c : Char} (hc : isOperator c) (hts : AreSpellable ts)
    (hus : AreSpellable us) : AreSpellable (ts ++ .op c :: us) :=
  areSpellable_append hts (areSpellable_cons (.op hc) hus)

theorem isSpelled_int {n : Nat} (hn : n ≤ maxInteger) :
    IsSpelled (.int n) (Nat.toDigits 10 n ++ ['L']) := by
  have hvalue : digitsValue (Nat.toDigits 10 n) = n :=
    Nat.ofDigitChars_toDigits (by decide) (by decide)
  refine .int Nat.toDigits_ne_nil (fun c hc => ?_) (by rw [hvalue]) (by exact_mod_cast hn)
  exact Nat.isDigit_of_mem_toDigits (by decide) (by decide) hc

theorem isName_literal {x : String} (hx : x ∈ ["TRUE", "FALSE", "NULL"]) : IsName x := by
  simp only [List.mem_cons, List.not_mem_nil, or_false] at hx
  rcases hx with rfl | rfl | rfl
  all_goals exact ⟨_, _, rfl, by decide, List.all_eq_true.mp (by decide)⟩

/-- The tokens of a tree, as they stand where nothing binds. -/
def Piece.HasTokens (piece : Piece) : Prop := ∃ ts, Writes piece ts ∧ AreSpellable ts

theorem Piece.HasTokens.paren (p : Nat) (h : HasTokens (.operand 0 e)) :
    HasTokens (.operand p e) := by
  obtain ⟨ts, hw, hts⟩ := h
  have hclose : AreSpellable [.op ')'] := areSpellable_singleton (.op (by decide))
  exact ⟨_, .paren p hw, areSpellable_cons (.op (by decide)) (areSpellable_append hts hclose)⟩

theorem hasTokens_arguments (h : ∀ e ∈ es, (Piece.operand 0 e).HasTokens) :
    (Piece.arguments es).HasTokens := by
  induction es with
  | nil => exact ⟨[], .none, by simp [AreSpellable]⟩
  | cons e es ih =>
    obtain ⟨ts, hw, hts⟩ := h e List.mem_cons_self
    obtain ⟨us, hws, hus⟩ := ih fun d hd => h d (List.mem_cons_of_mem e hd)
    cases es with
    | nil => exact ⟨ts, .one hw, hts⟩
    | cons d es => exact ⟨_, .more hw hws, areSpellable_append_op (by decide) hts hus⟩

theorem Expr.IsWritable.hasTokens (h : e.IsWritable) : (Piece.operand 0 e).HasTokens := by
  induction h with
  | num ht hx => exact ⟨_, .num 0 _, areSpellable_singleton (.num ht hx)⟩
  | int hn => exact ⟨_, .int 0 _, areSpellable_singleton (isSpelled_int hn)⟩
  | str s => exact ⟨_, .str 0 s, areSpellable_singleton (.str (.inl rfl) s)⟩
  | lgl b =>
    refine ⟨_, .lgl 0 b, areSpellable_singleton (.ident (isName_literal ?_))⟩
    cases b <;> decide
  | null => exact ⟨_, .null 0, areSpellable_singleton (.ident (isName_literal (by decide)))⟩
  | ident hx hword => exact ⟨_, .ident 0 hword, areSpellable_singleton (.ident hx)⟩
  | neg _ ih =>
    obtain ⟨ts, hw, hts⟩ := ih.paren 2
    exact ⟨_, .neg (by decide) hw, areSpellable_cons (.op (by decide)) hts⟩
  | @binary c l e hc _ _ ihl ihe =>
    obtain ⟨ts, hw, hts⟩ := ihl.paren (precedence c)
    obtain ⟨us, hws, hus⟩ := ihe.paren (precedence c + 1)
    have hops : ['+', '-', '*', '/'].all isOperator := by decide
    have hop : isOperator c := List.all_eq_true.mp hops c hc
    exact ⟨_, .binary hc (Nat.zero_le _) hw hws, areSpellable_append_op hop hts hus⟩
  | @call f es hf _ ih =>
    obtain ⟨ts, hw, hts⟩ := hasTokens_arguments ih
    have hclose : AreSpellable [.op ')'] := areSpellable_singleton (.op (by decide))
    exact ⟨_, .call 0 f hw, areSpellable_cons (.ident hf)
      (areSpellable_cons (.op (by decide)) (areSpellable_append hts hclose))⟩

/-- Every such tree has a source text, and so has an assignment of it to any name. -/
theorem Expr.IsWritable.exists_source (h : e.IsWritable) :
    (∃ text, IsSource e text) ∧ ∀ x, IsName x → ∃ text, IsSource (.assign x e) text := by
  obtain ⟨ts, hw, hts⟩ := h.hasTokens
  refine ⟨?_, fun x hx => ?_⟩
  · obtain ⟨text, htext⟩ := hts.exists_spells
    exact ⟨text, .operand hw htext⟩
  · have hassign := areSpellable_cons (.ident hx) (areSpellable_cons .assign hts)
    obtain ⟨text, htext⟩ := hassign.exists_spells
    exact ⟨text, .assign hw htext⟩

end GuestRuntime.Mini
