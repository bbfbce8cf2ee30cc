import GuestRuntime.Proofs.Syntax.Appending
import GuestRuntime.Proofs.Mini.Calls

/-!
Source text line by line. A line end after a program ends its last statement, and what stands behind
the line end is read as it is alone:

        s  line end  t ──parse──▶ the expressions of s, then those of t
                                  or why t is no program

A string vector is its elements as lines, so vectors are read one after the other too. Main
statement: `parse_lines`.
-/

namespace GuestRuntime.Mini

open Token Machine TheGuest

variable {e : Expr} {es fs : List Expr} {ts us r : List Token} {s t : List Char}

/-! ### Programs -/

theorem map_cons_append (e : Expr) (es : List Expr) (x : Except Failure (List Expr)) :
    (x.map (es ++ ·)).map (e :: ·) = x.map (e :: es ++ ·) := by
  cases x <;> rfl

theorem newlines_append_newline (k : Nat) (us : List Token) :
    newlines k ++ .newline :: us = .newline :: (newlines k ++ us) := by
  induction k with
  | zero => rfl
  | succ k ih => exact congrArg (Token.newline :: ·) ih

theorem AreStatements.program_append {k : Nat} (h : AreStatements es ts r) (hr : r = newlines k)
    (us : List Token) :
    program (ts ++ .newline :: us) = (program us).map (es ++ ·) := by
  induction h with
  | @one e ts r h =>
    subst hr
    have hnext := h.append (.newline :: us) (by simp)
    rw [newlines_append_newline] at hnext
    rw [program_cons hnext, program_newlines]
    rfl
  | @more e es ts vs r i h _ ih =>
    have hnext : IsStatement e (ts ++ .newline :: us)
        (.newline :: (newlines i ++ (vs ++ .newline :: us))) := by
      have happend := h.append (.newline :: us) (by simp [newlines])
      rwa [List.append_assoc] at happend
    rw [program_cons hnext, program_newlines, ih hr, map_cons_append]

/-- A program, a line end and any tokens are read one after the other. -/
theorem IsProgram.program_append (h : IsProgram es ts) (us : List Token) :
    program (ts ++ .newline :: us) = (program us).map (es ++ ·) := by
  cases h with
  | none k =>
    have hlines : program (newlines k ++ .newline :: us) = program us := by
      rw [program_newlines]
      exact program_newlines 1 us
    rw [hlines]
    cases program us <;> rfl
  | some j k h => rw [List.append_assoc, program_newlines, h.program_append rfl]

/-! ### Texts -/

theorem parse_append (h : parse s = .ok es) (t : List Char) :
    parse (s ++ '\n' :: t) = (parse t).map (es ++ ·) := by
  obtain ⟨ts, hts, hp⟩ := parse_eq_ok h
  rw [parse, parse, lex_lines hts]
  cases lex t with
  | error why => rfl
  | ok us => exact (statements_sound hp).program_append us

/-! ### String vectors -/

theorem sourceText_cons_cons (b c : Bytes) (bs : List Bytes) :
    sourceText (b :: c :: bs) = Utf8.decodeChars b ++ '\n' :: sourceText (c :: bs) := by
  simp [sourceText, List.intercalate_cons_cons]

theorem sourceText_append (b c : Bytes) (bs cs : List Bytes) :
    sourceText (b :: bs ++ c :: cs) = sourceText (b :: bs) ++ '\n' :: sourceText (c :: cs) := by
  induction bs generalizing b with
  | nil => rw [List.singleton_append, sourceText_cons_cons, sourceText_singleton]
  | cons d bs ih =>
    rw [List.cons_append, List.cons_append, sourceText_cons_cons, ← List.cons_append, ih,
      sourceText_cons_cons, List.append_assoc, List.cons_append]

theorem parse_sourceText_append {bs cs : List Bytes} (h : parse (sourceText bs) = .ok es) :
    parse (sourceText (bs ++ cs)) = (parse (sourceText cs)).map (es ++ ·) := by
  have hnone : parse (sourceText []) = .ok [] := rfl
  rcases bs with _ | ⟨b, bs⟩
  · cases h
    rw [List.nil_append]
    cases parse (sourceText cs) <;> rfl
  · rcases cs with _ | ⟨c, cs⟩
    · rw [List.append_nil, h, hnone, Except.map, List.append_nil]
    · rw [sourceText_append]
      exact parse_append h _

/-- What a call that parses comes to: expressions in an object, or the status of a failure and no
object. -/
def ParsesTo (w : World Machine) (x : Obj) : Except Failure (List Expr) → Prop
  | .ok es => ∃ y w', World.call it (.parse x) w = (.ok (parsedOk, y), w') ∧
      w'.memory.object? y = some (.exprs es)
  | .error why => World.call it (.parse x) w = (.ok (statusOf why, Machine.nil), w)

theorem statusOf_injective : Function.Injective statusOf := by
  intro a b h
  cases a <;> cases b <;> first | rfl | cases h

/-- A string vector parses to what its lines do, and to nothing else. -/
theorem parsesTo_iff {w : World Machine} {x : Obj} {bs : List Bytes}
    (ho : w.memory.object? x = some (.strings bs)) (p : Except Failure (List Expr)) :
    ParsesTo w x p ↔ parse (sourceText bs) = p := by
  obtain ⟨m, h⟩ := w
  cases hp : parse (sourceText bs) with
  | ok es =>
    have hcall := call_parseStrings_ok (h := h) ho hp
    have hread : ((m.push (.exprs es)).leak m.next).object? m.next = some (.exprs es) := by simp
    cases p with
    | ok fs =>
      rw [ParsesTo, hcall]
      constructor
      · rintro ⟨y, w', hy, hfs⟩
        cases hy
        cases hread.symm.trans hfs
        rfl
      · intro heq
        cases heq
        exact ⟨_, _, rfl, hread⟩
    | error why =>
      rw [ParsesTo, hcall]
      simp [(statusOf_ne_parsedOk why).symm]
  | error why =>
    have hcall := call_parseStrings_error (h := h) ho hp
    cases p with
    | ok fs =>
      rw [ParsesTo, hcall]
      simp [statusOf_ne_parsedOk why]
    | error why' =>
      rw [ParsesTo, hcall]
      simp [statusOf_injective.eq_iff]

/-- A text behind a line end behind a program is read as it is alone: to more expressions, or to the
same failure. And so is a string vector behind another: where the first parses to expressions, both
together parse to these and then to what the second does, whatever machine each is in. -/
theorem parse_lines :
    (∀ s t es, parse s = .ok es → parse (s ++ '\n' :: t) = (parse t).map (es ++ ·)) ∧
      ∀ (w₁ w₂ w : World Machine) (x y z : Obj) (bs cs : List Bytes) (es : List Expr),
        w₁.memory.object? x = some (.strings bs) → w₂.memory.object? y = some (.strings cs) →
        w.memory.object? z = some (.strings (bs ++ cs)) → ParsesTo w₁ x (.ok es) →
        ∃ p, ParsesTo w₂ y p ∧ ParsesTo w z (p.map (es ++ ·)) := by
  refine ⟨fun s t es h => parse_append h t, ?_⟩
  intro w₁ w₂ w x y z bs cs es hx hy hz h
  have hbs : parse (sourceText bs) = .ok es := (parsesTo_iff hx _).mp h
  exact ⟨parse (sourceText cs), (parsesTo_iff hy _).mpr rfl,
    (parsesTo_iff hz _).mpr (parse_sourceText_append hbs)⟩

/-- A world with one object, a string vector. -/
def holding (lines : List String) : World Machine where
  memory := { heap := #[.strings (lines.map Utf8.encode)] }
  host := { output := { shared := .buffer [] }, home := none, query := .missing }

/-- A comment at the end of the first line, and a second line that is incomplete. -/
theorem parse_lines_comment :
    parse "x # c\nf(".toList = .error .incomplete ∧
      ∃ p, ParsesTo (holding ["f("]) ⟨1⟩ p ∧
        ParsesTo (holding ["x # c", "f("]) ⟨1⟩ (p.map ([.ident "x"] ++ ·)) := by
  have hx : ParsesTo (holding ["x # c"]) ⟨1⟩ (.ok [.ident "x"]) := (parsesTo_iff rfl _).mpr rfl
  exact ⟨parse_lines.1 "x # c".toList "f(".toList _ rfl,
    parse_lines.2 _ _ _ ⟨1⟩ ⟨1⟩ ⟨1⟩ _ [Utf8.encode "f("] _ rfl rfl rfl hx⟩

end GuestRuntime.Mini
