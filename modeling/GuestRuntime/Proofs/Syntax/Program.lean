import GuestRuntime.Proofs.Syntax.Derivation

/-!
Whole programs: statements between runs of newlines, at least one newline between any two.

        the program derives the trees  ──▶  it is read as them
                                       ◀──

Main statement: `program_eq_ok_iff`; as reading is a function, a token list derives the trees of at
most one program.
-/

namespace GuestRuntime.Mini

open Reading

/-- A statement at the front of a token list. -/
inductive IsStatement : Expr → List Token → List Token → Prop
  | assign {e ts r} (x : String) (k : Nat) : Derives (.sum e) ts r →
    IsStatement (.assign x e) (.ident x :: .assign :: (newlines k ++ ts)) r
  | sum {e ts r} : Derives (.sum e) ts r → IsStatement e ts r

/-- Statements at the front of a token list, at least one newline between any two. -/
inductive AreStatements : List Expr → List Token → List Token → Prop
  | one {e ts r} : IsStatement e ts r → AreStatements [e] ts r
  | more {e es ts us r} (k : Nat) : IsStatement e ts (newlines (k + 1) ++ us) →
    AreStatements es us r → AreStatements (e :: es) ts r

/-- A token list that is a program as a whole. -/
inductive IsProgram : List Expr → List Token → Prop
  | none (k : Nat) : IsProgram [] (newlines k)
  | some {es ts} (j k : Nat) : AreStatements es ts (newlines k) → IsProgram es (newlines j ++ ts)

/-! ### Statements -/

theorem statement_sound {e : Expr} {ts r : List Token} (h : statement ts = .ok e r) :
    IsStatement e ts r := by
  unfold statement at h
  split at h
  · rename_i x us
    obtain ⟨e, he, rfl⟩ := map_eq_ok.mp h
    obtain ⟨k, hk⟩ := exists_newlines us
    rw [hk]
    exact .assign x k (read_sound _ he)
  · exact .sum (read_sound _ h)

theorem IsStatement.skipNewlines_eq {e : Expr} {ts r : List Token} (h : IsStatement e ts r) :
    skipNewlines ts = ts := by
  cases h with
  | assign x k _ => exact skipNewlines_cons (by simp) _
  | sum h => exact h.skipNewlines_eq

theorem IsStatement.length_lt {e : Expr} {ts r : List Token} (h : IsStatement e ts r) :
    r.length < ts.length := by
  cases h with
  | assign x k h => have := h.length_lt; simp; omega
  | sum h => exact h.length_lt

/-- Where a statement ends, the tokens or the line end. -/
def EndsLine (r : List Token) : Prop := ∀ t ∈ r.head?, t = .newline

theorem noOperator_of_endsLine {r : List Token} (h : EndsLine r) (cs : List Char) :
    NoOperator cs r := by
  intro c _ hc
  cases h _ hc

theorem Derives.read_sum {e : Expr} {ts r : List Token} (h : Derives (.sum e) ts r)
    (hr : EndsLine r) {n : Nat} (hn : Rule.sum.need ts ≤ n) : read n .sum ts = .ok e r := by
  rw [read_eq_reading hn, h.isRead (noOperator_of_endsLine hr _),
    sumTail_stops (noOperator_of_endsLine hr _)]

theorem IsStatement.isRead {e : Expr} {ts r : List Token} (h : IsStatement e ts r)
    (hr : EndsLine r) : statement ts = .ok e r := by
  cases h with
  | @assign e ts _ x k h =>
    have hn : Rule.sum.need ts ≤ nesting (newlines k ++ ts) := by
      simp [Rule.need, nesting]; omega
    rw [statement, skipNewlines_newlines, h.skipNewlines_eq, h.read_sum hr hn]
    rfl
  | sum h =>
    unfold statement
    split
    · have := h.rest_of_assign rfl
      cases hr .assign (by simp [this])
    · exact h.read_sum hr (by simp [Rule.need, nesting])

/-! ### Programs -/

theorem except_map_eq_ok {α β : Type} {x : Except Failure α} {f : α → β} {b : β} :
    x.map f = .ok b ↔ ∃ a, x = .ok a ∧ f a = b := by
  cases x <;> simp [Except.map]

theorem except_map_eq_error {α β : Type} {x : Except Failure α} {f : α → β} {w : Failure} :
    x.map f = .error w ↔ x = .error w := by
  cases x <;> simp [Except.map]

theorem AreStatements.skipNewlines_eq {es : List Expr} {ts r : List Token}
    (h : AreStatements es ts r) : skipNewlines ts = ts := by
  cases h with
  | one h => exact h.skipNewlines_eq
  | more _ h _ => exact h.skipNewlines_eq

/-- A statement before the newline that a program begins with. -/
theorem IsProgram.cons {e : Expr} {es : List Expr} {ts us : List Token}
    (h : IsProgram es (.newline :: us)) (he : IsStatement e ts (.newline :: us)) (j : Nat) :
    IsProgram (e :: es) (newlines j ++ ts) := by
  generalize hr : Token.newline :: us = r at h he
  cases h with
  | none k => exact .some j k (.one he)
  | @some _ vs i k h =>
    cases i with
    | zero =>
      have hvs : vs = .newline :: us := hr.symm
      have hus := h.skipNewlines_eq
      rw [hvs, skipNewlines_newline] at hus
      have hle := length_skipNewlines_le us
      rw [hus, List.length_cons] at hle
      omega
    | succ i => exact .some j k (.more i he h)

theorem statements_sound {n : Nat} {ts : List Token} {es : List Expr}
    (h : statements n ts = .ok es) : IsProgram es ts := by
  induction n generalizing ts es with
  | zero => cases h
  | succ n ih =>
    obtain ⟨j, hj⟩ := exists_newlines ts
    unfold statements at h
    split at h
    · rename_i hts
      cases h
      rw [hj, hts, List.append_nil]
      exact .none j
    · rw [hj]
      split at h
      · cases h
      · rename_i e r he
        have he := statement_sound he
        split at h
        · cases h
          exact .some j 0 (.one he)
        · rename_i us _
          obtain ⟨es, hes, rfl⟩ := except_map_eq_ok.mp h
          exact (ih hes).cons he j
        · cases h

theorem endsLine_newlines (k : Nat) : EndsLine (newlines k) := by
  cases k <;> simp [EndsLine, newlines, List.replicate_succ]

theorem statements_newlines (k n : Nat) : statements (n + 1) (newlines k) = .ok [] := by
  rw [statements, ← List.append_nil (newlines k), skipNewlines_newlines]
  rfl

/-- The statements of a program, with `next` to read those behind the first. -/
def expandProgram (next : List Token → Except Failure (List Expr)) (ts : List Token) :
    Except Failure (List Expr) :=
  match skipNewlines ts with
  | [] => .ok []
  | ts =>
    match statement ts with
    | .fail w _ => .error w
    | .ok e r =>
      match r with
      | [] => .ok [e]
      | .newline :: _ => (next r).map (e :: ·)
      | _ => .error .error

theorem statements_succ (n : Nat) (ts : List Token) :
    statements (n + 1) ts = expandProgram (statements n) ts := rfl

theorem expandProgram_congr {next next' : List Token → Except Failure (List Expr)} {ts : List Token}
    (h : ∀ {us}, us.length < ts.length → next us = next' us) :
    expandProgram next ts = expandProgram next' ts := by
  have hskip := length_skipNewlines_le ts
  unfold expandProgram
  split
  · rfl
  · split
    · rfl
    · rename_i e r he
      have hlt := (statement_sound he).length_lt
      split
      · rfl
      · rw [h (by omega)]
      · rfl

/-- With a step for each token and one more, how many there are makes no difference. -/
theorem statements_stable {n m : Nat} {ts : List Token} (hn : ts.length < n) (hm : ts.length < m) :
    statements n ts = statements m ts := by
  induction n generalizing m ts with
  | zero => omega
  | succ n ih =>
    rcases m with _ | m
    · omega
    rw [statements_succ, statements_succ]
    exact expandProgram_congr fun hlt => ih (by omega) (by omega)

/-- A program is read as its own text says, in which no number of statements is left. -/
theorem program_eq_expandProgram (ts : List Token) : program ts = expandProgram program ts := by
  rw [program, statements_succ]
  exact expandProgram_congr fun hlt => statements_stable hlt (Nat.lt_succ_self _)

theorem program_newlines (k : Nat) (ts : List Token) : program (newlines k ++ ts) = program ts := by
  rw [program_eq_expandProgram, expandProgram, skipNewlines_newlines]
  exact (program_eq_expandProgram ts).symm

/-- A statement and the line end behind it, before whatever stands on the next line. -/
theorem program_cons {e : Expr} {ts r : List Token} (h : IsStatement e ts (.newline :: r)) :
    program ts = (program r).map (e :: ·) := by
  have hends : EndsLine (.newline :: r) := by simp [EndsLine]
  have hr : program (.newline :: r) = program r := program_newlines 1 r
  rcases ts with _ | ⟨t, us⟩
  · have := h.length_lt
    simp at this
  rw [program_eq_expandProgram, expandProgram, h.skipNewlines_eq]
  simp only [h.isRead hends, hr]

theorem AreStatements.isRead {es : List Expr} {ts r : List Token} {k : Nat}
    (h : AreStatements es ts r) (hr : r = newlines k) (j : Nat) {n : Nat}
    (hn : (newlines j ++ ts).length < n) : statements n (newlines j ++ ts) = .ok es := by
  induction h generalizing j n with
  | @one e ts r h =>
    subst hr
    have hlt := h.length_lt
    rcases ts with _ | ⟨t, us⟩
    · simp at hlt
    rcases n with _ | _ | n
    · omega
    · simp at hn
    rw [statements, skipNewlines_newlines, h.skipNewlines_eq]
    simp only [h.isRead (endsLine_newlines k)]
    cases k with
    | zero => rfl
    | succ k => exact congrArg (Except.map (e :: ·)) (statements_newlines (k + 1) n)
  | @more e es ts us r i h _ ih =>
    have hlt := h.length_lt
    rcases ts with _ | ⟨t, vs⟩
    · simp at hlt
    rcases n with _ | n
    · omega
    rw [statements, skipNewlines_newlines, h.skipNewlines_eq]
    have hends : EndsLine (newlines (i + 1) ++ us) := by
      simp [EndsLine, newlines, List.replicate_succ]
    simp only [h.isRead hends]
    exact congrArg (Except.map (e :: ·)) (ih hr (i + 1) (by simp at hlt hn ⊢; omega))

theorem IsProgram.isRead {es : List Expr} {ts : List Token} (h : IsProgram es ts) :
    program ts = .ok es := by
  cases h with
  | none k => exact statements_newlines k _
  | some j k h => exact h.isRead rfl j (Nat.lt_succ_self _)

theorem parse_eq_ok {source : List Char} {es : List Expr} (h : parse source = .ok es) :
    ∃ ts, Token.lex source = .ok ts ∧ program ts = .ok es := by
  unfold parse at h
  split at h
  · rename_i ts hts
    exact ⟨ts, hts, h⟩
  · cases h

/-- A token list is read as a program's expressions exactly if the grammar derives them from it; so
it derives those of one program at most. -/
theorem program_eq_ok_iff (ts : List Token) (es : List Expr) :
    (program ts = .ok es ↔ IsProgram es ts) ∧
      ∀ es', IsProgram es ts → IsProgram es' ts → es = es' := by
  refine ⟨⟨statements_sound, IsProgram.isRead⟩, fun es' h h' => ?_⟩
  have := h.isRead.symm.trans h'.isRead
  exact Except.ok.inj this

/-- Newlines may stand after an opening parenthesis and an operator, and must between statements. -/
theorem isProgram_call_product :
    IsProgram [.binary '*' (.call "f" [.neg (.ident "x")]) (.ident "y"), .ident "z"]
      [.ident "f", .op '(', .newline, .op '-', .ident "x", .op ')', .op '*', .newline, .ident "y",
        .newline, .ident "z"] :=
  (program_eq_ok_iff _ _).1.mp rfl

end GuestRuntime.Mini
