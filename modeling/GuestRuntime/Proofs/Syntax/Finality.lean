import GuestRuntime.Proofs.Syntax.Appending

/-!
What is an error stays one. A text that goes on has the tokens it had, but the last may grow: a
number to another, or to an integer, and a name to another name.

        1 )          num  )            reading stops at the parenthesis
        1 )+ ab      num  )  +  ab     and stops there again

Reading looks at the kinds of tokens only, so it takes the same way over both lists as long as the
shorter one lasts. Main statement: `parse_error_final`.
-/

namespace GuestRuntime.Mini

open Reading

/-! ### Tokens that go on -/

/-- What the last token of a text can become when the text goes on. -/
inductive Grows : Token → Token → Prop
  | num (x y : Double) : Grows (.num x) (.num y)
  | int (x : Double) (n : Int) : Grows (.num x) (.int n)
  | ident (x y : String) : Grows (.ident x) (.ident y)

/-- The tokens of a text, and those of a text that begins with it. -/
inductive Extends : List Token → List Token → Prop
  | nil (us : List Token) : Extends [] us
  | last {t t' : Token} (h : Grows t t') (us : List Token) : Extends [t] (t' :: us)
  | cons {ts ts' : List Token} (t : Token) (h : Extends ts ts') : Extends (t :: ts) (t :: ts')

variable {e e' : Expr} {ts ts' us us' r r' : List Token}

theorem Extends.append_left (h : Extends us us') (ts : List Token) :
    Extends (ts ++ us) (ts ++ us') := by
  induction ts with
  | nil => exact h
  | cons t ts ih => exact .cons t ih

theorem extends_append (ts us : List Token) : Extends ts (ts ++ us) := by
  simpa using (Extends.nil us).append_left ts

theorem Extends.skipNewlines (h : Extends ts ts') :
    Extends (skipNewlines ts) (skipNewlines ts') := by
  induction h with
  | nil us => exact .nil _
  | last h us =>
    cases h with
    | num x y => exact .last (.num x y) us
    | int x n => exact .last (.int x n) us
    | ident x y => exact .last (.ident x y) us
  | cons t h ih =>
    by_cases ht : t = .newline
    · subst ht
      exact ih
    · rw [skipNewlines_cons ht, skipNewlines_cons ht]
      exact .cons t h

/-- What is read of tokens and of more of them: an error is one, and what is read is read while
there are tokens left; where they end, anything can come. -/
inductive Agrees : Reading Expr → Reading Expr → Prop
  | incomplete (r : List Token) (x : Reading Expr) : Agrees (.fail .incomplete r) x
  | ended (e : Expr) (x : Reading Expr) : Agrees (.ok e []) x
  | error (r r' : List Token) : Agrees (.fail .error r) (.fail .error r')
  | ok (e e' : Expr) {r r' : List Token} (h : Extends r r') : Agrees (.ok e r) (.ok e' r')

theorem Agrees.andThen {x x' : Reading Expr} {f f' : Expr → List Token → Reading Expr}
    (h : Agrees x x')
    (hf : ∀ a a' r r', x = .ok a r → Extends r r' → Agrees (f a r) (f' a' r'))
    (hend : ∀ a y, x = .ok a [] → Agrees (f a []) y) : Agrees (x.andThen f) (x'.andThen f') := by
  cases h with
  | incomplete r x => exact .incomplete r _
  | ended e x => exact hend e _ rfl
  | error r r' => exact .error r r'
  | ok e e' h => exact hf e e' _ _ rfl h

/-- Rules that differ in what was read before at most. -/
inductive Rule.Like : Rule → Rule → Prop
  | sum : Like .sum .sum
  | sumTail (e e' : Expr) : Like (.sumTail e) (.sumTail e')
  | product : Like .product .product
  | productTail (e e' : Expr) : Like (.productTail e) (.productTail e')
  | unary : Like .unary .unary
  | primary : Like .primary .primary
  | arguments (f f' : String) (es es' : List Expr) : Like (.arguments f es) (.arguments f' es')

/-- Where there are no tokens, a tail has come to its end and any other rule is incomplete. -/
theorem agrees_reading_nil (rule : Rule) (x : Reading Expr) : Agrees (rule.reading []) x := by
  cases rule with
  | sumTail e => exact .ended e x
  | productTail e => exact .ended e x
  | _ => exact .incomplete [] x

/-! ### Rules over more tokens -/

/-- Every rule that needs fewer steps agrees with one like it over more tokens. -/
def AgreesBelow (n : Nat) : Prop :=
  ∀ {rule rule' : Rule} {ts ts' : List Token}, rule.need ts < n → rule.Like rule' → Extends ts ts' →
    Agrees (rule.reading ts) (rule'.reading ts')

/-- One rule after another, where the first takes a token. -/
theorem AgreesBelow.andThen {n : Nat} (ih : AgreesBelow n) {operand : Rule}
    {tail tail' : Expr → Rule} (hn : operand.need us < n) (hleast : operand.least = 1)
    (hoperand : operand.Like operand) (htail : ∀ e e', (tail e).Like (tail' e'))
    (h : Extends us us') :
    Agrees ((operand.reading us).andThen fun e r => (tail e).reading r)
      ((operand.reading us').andThen fun e r => (tail' e).reading r) := by
  refine (ih hn hoperand h).andThen (fun a a' r r' ha hr => ?_) fun a y _ => agrees_reading_nil _ _
  have hlt := read_progresses _ ha
  exact ih (Nat.lt_trans (Rule.need_lt (by omega)) hn) (htail a a') hr

theorem AgreesBelow.goOn {n : Nat} (ih : AgreesBelow n) {operand : Rule} {tail : Expr → Rule}
    (hn : 5 * ts.length < n) (hleast : operand.least = 1) (hoperand : operand.Like operand)
    (htail : ∀ e e', (tail e).Like (tail e')) (h : Extends ts ts') (a b : Char) (lhs lhs' : Expr) :
    Agrees (goOn Rule.reading a b operand tail lhs ts)
      (goOn Rule.reading a b operand tail lhs' ts') := by
  cases h with
  | nil us => exact .ended lhs _
  | last hg us => cases hg <;> exact .ok lhs lhs' (.last (by constructor) us)
  | @cons us us' t h =>
    cases t with
    | op c =>
      by_cases hc : c = a ∨ c = b
      · simp only [Mini.goOn, if_pos hc]
        refine ih.andThen ?_ hleast hoperand (fun e e' => htail _ _) h.skipNewlines
        have hlen := length_skipNewlines_le us
        have hneed : operand.need (skipNewlines us) ≤ 5 * (skipNewlines us).length + 5 := by
          cases operand <;> simp [Rule.need]
        simp only [List.length_cons] at hn
        omega
      · simp only [Mini.goOn, if_neg hc]
        exact .ok lhs lhs' (.cons _ h)
    | _ => exact .ok lhs lhs' (.cons _ h)

theorem agrees_closing (e e' : Expr) (h : Extends r r') : Agrees (closing e r) (closing e' r') := by
  have hskip := h.skipNewlines
  generalize hs : skipNewlines r = s at hskip
  generalize hs' : skipNewlines r' = s' at hskip
  cases hskip with
  | nil us =>
    rw [closing, hs]
    exact .incomplete [] _
  | last hg us =>
    rw [closing_of_cons hs, closing_of_cons hs']
    cases hg <;> exact .error _ _
  | cons t h =>
    rw [closing_of_cons hs, closing_of_cons hs']
    split
    · exact .ok e e' h
    · exact .error _ _

/-- Behind the opening parenthesis of a call. -/
theorem AgreesBelow.call {n : Nat} (ih : AgreesBelow n) (hn : 5 * us.length + 5 < n) (f : String)
    (h : Extends us us') :
    Agrees (Rule.primary.expand Rule.reading (.ident f :: .op '(' :: us))
      (Rule.primary.expand Rule.reading (.ident f :: .op '(' :: us')) := by
  have hlen := length_skipNewlines_le us
  have hskip := h.skipNewlines
  have hnext : Agrees ((Rule.arguments f []).reading (skipNewlines us))
      ((Rule.arguments f []).reading (skipNewlines us')) :=
    ih (by simp only [Rule.need]; omega) (.arguments _ _ _ _) hskip
  rw [expand_primary_call, expand_primary_call]
  generalize skipNewlines us = s at hskip hnext
  generalize skipNewlines us' = s' at hskip hnext
  cases hskip with
  | nil vs => exact agrees_reading_nil _ _
  | last hg vs => cases hg <;> exact hnext
  | cons t h =>
    simp only [List.head?_cons, Option.some.injEq]
    split
    · exact .ok _ _ h
    · exact hnext

/-- Behind an argument: a further one, or the end of the call. -/
theorem AgreesBelow.arguments {f f' : String} {es es' : List Expr}
    (ih : AgreesBelow ((Rule.arguments f es).need ts)) (h : Extends ts ts') :
    Agrees ((Rule.arguments f es).expand Rule.reading ts)
      ((Rule.arguments f' es').expand Rule.reading ts') := by
  have hsum : Agrees (Rule.sum.reading ts) (Rule.sum.reading ts') := ih (by simp [Rule.need]) .sum h
  rw [expand_arguments, expand_arguments]
  refine hsum.andThen (fun a a' r r' ha hr => ?_) fun a y _ => .incomplete [] y
  have hlt : r.length + 1 ≤ ts.length := read_progresses _ ha
  have hlen := length_skipNewlines_le r
  have hskip := hr.skipNewlines
  generalize skipNewlines r = s at hskip hlen
  generalize skipNewlines r' = s' at hskip
  cases hskip with
  | nil us => exact .incomplete [] _
  | last hg us => cases hg <;> exact .error _ _
  | @cons us us' t h =>
    dsimp only
    split
    · have hus := length_skipNewlines_le us
      simp only [List.length_cons] at hlen
      exact ih (Rule.need_lt (by omega)) (.arguments _ _ _ _) h.skipNewlines
    · split
      · exact .ok _ _ h
      · exact .error us us'

/-- A sign before an operand, or the operand alone. -/
theorem AgreesBelow.unary (ih : AgreesBelow (Rule.unary.need ts)) (h : Extends ts ts') :
    Agrees (Rule.unary.expand Rule.reading ts) (Rule.unary.expand Rule.reading ts') := by
  have hprimary : Agrees (Rule.primary.reading ts) (Rule.primary.reading ts') :=
    ih (by simp [Rule.need]) .primary h
  cases h with
  | nil us => exact agrees_reading_nil .primary _
  | last hg us => cases hg <;> exact hprimary
  | @cons us us' t h =>
    by_cases ht : t = .op '-'
    · subst ht
      have hoperand : Agrees (Rule.unary.reading us) (Rule.unary.reading us') :=
        ih (Rule.need_lt (by simp)) .unary h
      exact hoperand.andThen (fun a a' r r' _ hr => .ok _ _ hr) fun a y _ => .ended _ y
    · rw [expand_unary_ne (by simpa using ht), expand_unary_ne (by simpa using ht)]
      exact hprimary

theorem AgreesBelow.primary (ih : AgreesBelow (Rule.primary.need ts)) (h : Extends ts ts') :
    Agrees (Rule.primary.expand Rule.reading ts) (Rule.primary.expand Rule.reading ts') := by
  cases h with
  | nil us => exact .incomplete [] _
  | last hg us => cases hg <;> exact .ended _ _
  | @cons us us' t h =>
    cases t with
    | num | int | str => exact .ok _ _ h
    | assign | newline => exact .error us us'
    | op c =>
      by_cases hc : c = '('
      · subst hc
        have hlen := length_skipNewlines_le us
        have hsum : Agrees (Rule.sum.reading (skipNewlines us))
            (Rule.sum.reading (skipNewlines us')) :=
          ih (Rule.need_lt (by simp; omega)) .sum h.skipNewlines
        exact hsum.andThen (fun a a' r r' _ hr => agrees_closing a a' hr)
          fun a y _ => .incomplete [] y
      · rw [expand_primary_op hc, expand_primary_op hc]
        exact .error us us'
    | ident x =>
      cases h with
      | nil us => exact .ended _ _
      | @last t t' hg us =>
        have hne : t ≠ .op '(' ∧ t' ≠ .op '(' := by cases hg <;> simp
        rw [expand_primary_name (by simpa using hne.1), expand_primary_name (by simpa using hne.2)]
        exact .ok _ _ (.last hg us)
      | @cons vs vs' t h =>
        by_cases ht : t = .op '('
        · subst ht
          exact ih.call (by simp [Rule.need]; omega) x h
        · rw [expand_primary_name (by simpa using ht), expand_primary_name (by simpa using ht)]
          exact .ok _ _ (.cons t h)

theorem agrees_expand {rule rule' : Rule} (ih : AgreesBelow (rule.need ts))
    (hlike : rule.Like rule') (h : Extends ts ts') :
    Agrees (rule.expand Rule.reading ts) (rule'.expand Rule.reading ts') := by
  cases hlike with
  | sum => exact ih.andThen (by simp [Rule.need]) rfl .product .sumTail h
  | sumTail e e' => exact ih.goOn (by simp [Rule.need]) rfl .product .sumTail h '+' '-' e e'
  | product => exact ih.andThen (by simp [Rule.need]) rfl .unary .productTail h
  | productTail e e' => exact ih.goOn (by simp [Rule.need]) rfl .unary .productTail h '*' '/' e e'
  | unary => exact ih.unary h
  | primary => exact ih.primary h
  | arguments f f' es es' => exact ih.arguments h

/-- Reading takes the same way over more tokens as long as there were tokens. -/
theorem agrees_reading {rule rule' : Rule} (hlike : rule.Like rule') (h : Extends ts ts') :
    Agrees (rule.reading ts) (rule'.reading ts') := by
  -- By the steps the shorter list needs; the longer one may need any number more.
  induction hn : rule.need ts using Nat.strong_induction_on generalizing rule rule' ts ts' with
  | _ n ih =>
    rw [reading_eq_expand, reading_eq_expand]
    refine agrees_expand (fun hlt hlike h => ?_) hlike h
    exact ih _ (hn ▸ hlt) hlike h rfl

/-! ### Statements and programs -/

theorem agrees_statement (h : Extends ts ts') : Agrees (statement ts) (statement ts') := by
  have hsum : Agrees (Rule.sum.reading ts) (Rule.sum.reading ts') := agrees_reading .sum h
  cases h with
  | nil us => exact .incomplete [] _
  | last hg us => cases hg <;> exact .ended _ _
  | @cons us us' t h =>
    cases t with
    | ident x =>
      cases h with
      | nil us => exact .ended _ _
      | last hg us =>
        rw [statement_eq_sum (by cases hg <;> simp), statement_eq_sum (by cases hg <;> simp)]
        exact hsum
      | @cons vs vs' t h =>
        by_cases ht : t = .assign
        · subst ht
          rw [statement_assign, statement_assign]
          have hvalue : Agrees (Rule.sum.reading (skipNewlines vs))
              (Rule.sum.reading (skipNewlines vs')) := agrees_reading .sum h.skipNewlines
          exact hvalue.andThen (fun a a' r r' _ hr => .ok _ _ hr) fun a y _ => .ended _ y
        · rw [statement_eq_sum (by simp [ht]), statement_eq_sum (by simp [ht])]
          exact hsum
    | _ =>
      rw [statement_eq_sum (by simp), statement_eq_sum (by simp)]
      exact hsum

/-- Tokens that are no program, and no beginning of one, are neither with more tokens. -/
theorem program_error (h : program ts = .error .error) (hext : Extends ts ts') :
    program ts' = .error .error := by
  -- Every statement takes a token, so what is left is shorter.
  induction hn : ts.length using Nat.strong_induction_on generalizing ts ts' with
  | _ n ih =>
    have hlen := length_skipNewlines_le ts
    have hskip := hext.skipNewlines
    rw [program_eq_expandProgram, expandProgram] at h ⊢
    generalize skipNewlines ts = s at hskip hlen h
    generalize skipNewlines ts' = s' at hskip
    rcases s with _ | ⟨t, us⟩
    · cases h
    obtain ⟨t', us', rfl⟩ : ∃ t' us', s' = t' :: us' := by cases hskip <;> exact ⟨_, _, rfl⟩
    have hread := agrees_statement hskip
    dsimp only at h ⊢
    generalize hx : statement (t :: us) = x at hread h
    generalize statement (t' :: us') = x' at hread ⊢
    cases hread with
    | incomplete r x => cases h
    | ended e x => cases h
    | error r r' => rfl
    | @ok e e' r r' hr =>
      have hlt : r.length < (t :: us).length := (statement_sound hx).length_lt
      cases hr with
      | nil vs => cases h
      | last hg vs => cases hg <;> rfl
      | @cons vs vs' t₂ hvs =>
        cases t₂ with
        | newline =>
          have hmore := ih _ (by omega) (except_map_eq_error.mp h) (.cons .newline hvs) rfl
          dsimp only
          rw [hmore]
          rfl
        | _ => rfl

/-! ### Texts that go on -/

namespace Token

variable {c : Char} {s s' : Scan} {base : List Token} {read source text : List Char}

/-- What was read before is read still. -/
theorem exists_of_onto (h : readFrom (s.onto base) text = .ok ts) :
    ∃ us, ts = base.reverse ++ us ∧ readFrom s text = .ok us := by
  rw [readFrom_onto] at h
  obtain ⟨us, hus, rfl⟩ := except_map_eq_ok.mp h
  exact ⟨us, rfl, hus⟩

/-- A character that ends a token leaves it the first. -/
theorem exists_cons_of_begin {t : Token} (hb : begin [t] c = some s)
    (h : readFrom s text = .ok ts) : ∃ us, ts = t :: us := by
  have honto := begin_onto [] [t] c
  rw [List.nil_append, hb] at honto
  obtain ⟨s', -, rfl⟩ := Option.map_eq_some_iff.mp honto.symm
  obtain ⟨us, rfl, -⟩ := exists_of_onto h
  exact ⟨us, rfl⟩

/-- A number that goes on is read as one, or as an integer. -/
theorem exists_number (h : readFrom ⟨[], .number read⟩ text = .ok ts) :
    ∃ t us, ts = t :: us ∧ ∀ x, Grows (.num x) t := by
  induction text generalizing read with
  | nil =>
    have h : finish ⟨[], .number read⟩ = .ok ts := h
    simp only [finish, closeNumber] at h
    cases hx : number? read.reverse with
    | none => simp [hx] at h
    | some x =>
      rw [hx] at h
      cases h
      exact ⟨.num x, [], rfl, fun y => .num y x⟩
  | cons c text ih =>
    cases hs : step ⟨[], .number read⟩ c with
    | none =>
      rw [readFrom_cons_none hs] at h
      cases h
    | some s =>
      rw [readFrom_cons hs] at h
      simp only [step] at hs
      split_ifs at hs with hmore hL
      · cases hs
        exact ih h
      · obtain ⟨n, -, rfl⟩ := Option.map_eq_some_iff.mp hs
        rw [readFrom_between] at h
        obtain ⟨us, -, rfl⟩ := except_map_eq_ok.mp h
        exact ⟨.int n, us, rfl, fun x => .int x n⟩
      · obtain ⟨us, hus, hb⟩ := Option.bind_eq_some_iff.mp hs
        obtain ⟨x, -, rfl⟩ := Option.map_eq_some_iff.mp hus
        obtain ⟨us, rfl⟩ := exists_cons_of_begin hb h
        exact ⟨.num x, us, rfl, fun y => .num y x⟩

/-- A name that goes on is read as one. -/
theorem exists_name (h : readFrom ⟨[], .word read⟩ text = .ok ts) :
    ∃ t us, ts = t :: us ∧ ∀ x, Grows (.ident x) t := by
  induction text generalizing read with
  | nil =>
    cases h
    exact ⟨_, [], rfl, fun y => .ident y _⟩
  | cons c text ih =>
    cases hs : step ⟨[], .word read⟩ c with
    | none =>
      rw [readFrom_cons_none hs] at h
      cases h
    | some s =>
      rw [readFrom_cons hs] at h
      simp only [step] at hs
      split_ifs at hs with hmore
      · cases hs
        exact ih h
      · obtain ⟨us, rfl⟩ := exists_cons_of_begin hs h
        exact ⟨_, us, rfl, fun y => .ident y _⟩

/-- The tokens of a text go on as the text does. -/
theorem extends_of_lex (hts : lex source = .ok ts) (hts' : lex (source ++ text) = .ok ts') :
    Extends ts ts' := by
  obtain ⟨⟨base, mode⟩, hs, hfinish⟩ := exists_scan hts
  have hread : readFrom (Scan.onto ⟨[], mode⟩ base) text = .ok ts' :=
    (readFrom_append hs).symm.trans hts'
  obtain ⟨us, rfl, hus⟩ := exists_of_onto hread
  cases mode with
  | between | comment =>
    cases hfinish
    exact extends_append _ us
  | string | escape | less => cases hfinish
  | number read =>
    obtain ⟨t, vs, rfl, hgrows⟩ := exists_number hus
    simp only [finish, closeNumber] at hfinish
    cases hx : number? read.reverse with
    | none => simp [hx] at hfinish
    | some x =>
      rw [hx] at hfinish
      cases hfinish
      simpa using (Extends.last (hgrows x) vs).append_left base.reverse
  | word read =>
    obtain ⟨t, vs, rfl, hgrows⟩ := exists_name hus
    cases hfinish
    simpa [closeWord] using (Extends.last (hgrows _) vs).append_left base.reverse

/-! ### Texts that cannot be read -/

theorem closeNumber_points (h : 1 < read.count '.') : closeNumber ts read = none := by
  have hcount : ¬ read.count '.' ≤ 1 := by omega
  simp [closeNumber, number?, hcount]

theorem integer?_points (h : 1 < read.count '.') : integer? read.reverse = none := by
  have hmem : '.' ∈ read := List.count_pos_iff.mp (by omega)
  have hall : ¬ ∀ c ∈ read, c.isDigit = true := fun hall => absurd (hall '.' hmem) (by decide)
  simp [integer?, hall]

/-- A second point in a number is one for good. -/
theorem readFrom_points (h : 1 < read.count '.') (ts : List Token) (text : List Char) :
    readFrom ⟨base, .number read⟩ text ≠ .ok ts := by
  induction text generalizing read with
  | nil =>
    have hfinish : finish ⟨base, .number read⟩ = .error .error := by
      simp [finish, closeNumber_points h]
    intro hread
    cases hfinish.symm.trans hread
  | cons c text ih =>
    by_cases hmore : continuesNumber c
    · have hstep : step ⟨base, .number read⟩ c = some ⟨base, .number (c :: read)⟩ := if_pos hmore
      rw [readFrom_cons hstep]
      exact ih (Nat.lt_of_lt_of_le h (List.count_le_count_cons ..))
    · have hstep : step ⟨base, .number read⟩ c = none := by
        simp [step, hmore, integer?_points h, closeNumber_points h]
      rw [readFrom_cons_none hstep]
      simp

theorem begin_eq_less (h : begin us c = some ⟨ts, .less⟩) : c = '<' := by
  unfold begin at h
  split_ifs at h <;> simp_all

theorem getLast?_of_scan_less (h : scan ⟨[], .between⟩ text = some ⟨ts, .less⟩) :
    text.getLast? = some '<' := by
  induction text using List.reverseRecOn with
  | nil => cases h
  | append_singleton text c _ =>
    rw [scan_append] at h
    obtain ⟨s, -, hc⟩ := Option.bind_eq_some_iff.mp h
    have hstep : step s c = some ⟨ts, .less⟩ := by simpa [scan] using hc
    rcases begun_of_step hstep (.inr rfl) with ⟨-, hmode⟩ | ⟨us, -, hbegin⟩
    · cases hmode
    · rw [begin_eq_less hbegin, List.getLast?_concat]

/-- A text that cannot be read cannot be read with more behind it, unless it ends where an arrow may
begin. -/
theorem lex_error (h : lex source = .error .error) (hlast : source.getLast? ≠ some '<')
    (text : List Char) (ts : List Token) : lex (source ++ text) ≠ .ok ts := by
  cases hs : scan ⟨[], .between⟩ source with
  | none =>
    rw [lex, scan_append, hs]
    simp
  | some s =>
    obtain ⟨base, mode⟩ := s
    have hread : lex (source ++ text) = readFrom ⟨base, mode⟩ text := readFrom_append hs
    have hfinish : finish ⟨base, mode⟩ = .error .error := by simpa [lex, hs] using h
    cases mode with
    | between | comment | string | escape | word => cases hfinish
    | less => exact absurd (getLast?_of_scan_less hs) hlast
    | number read =>
      rw [hread]
      refine readFrom_points ?_ ts text
      by_contra hcount
      have hle : read.count '.' ≤ 1 := by omega
      simp [finish, closeNumber, number?, hle] at hfinish

end Token

/-- A text that is an error is no program with any text behind it, unless it ends in what may become
an arrow. -/
theorem parse_error_final (s : List Char) (h : parse s = .error .error)
    (hlast : s.getLast? ≠ some '<') (t : List Char) (es : List Expr) : parse (s ++ t) ≠ .ok es := by
  intro hall
  obtain ⟨ts', hts', hp⟩ := parse_eq_ok hall
  cases hts : Token.lex s with
  | error w =>
    simp only [parse, hts] at h
    cases h
    exact Token.lex_error hts hlast t ts' hts'
  | ok ts =>
    have herror : program ts = .error .error := by simpa [parse, hts] using h
    have hmore := program_error herror (Token.extends_of_lex hts hts')
    cases hmore.symm.trans hp

/-- A parenthesis that closes nothing. -/
theorem parse_error_final_closing :
    parse "1 )".toList = .error .error ∧ ∀ es, parse ("1 )".toList ++ "+ (2".toList) ≠ .ok es :=
  ⟨rfl, parse_error_final _ rfl (by decide) _⟩

/-- What may become an arrow is an error until it does. -/
example : parse "x <".toList = .error .error ∧
    parse "x <- y".toList = .ok [.assign "x" (.ident "y")] := ⟨rfl, rfl⟩

end GuestRuntime.Mini
