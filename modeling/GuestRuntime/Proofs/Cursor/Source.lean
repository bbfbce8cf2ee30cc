import GuestRuntime.Proofs.Cursor.Lexing
import GuestRuntime.Proofs.Cursor.Parsing

/-!
Source text read to its end, in two passes. From every position of either list something is taken or
refused, and so, given a depth that is linear in what is left and rounds for what is left,
everything ends of itself:

        text ──rounds of the lexer──▶ tokens ──statements──▶ expressions
                                                  └ depth at most 4 × tokens left + 5

Main statements: `reading_ends` and `parse_eq`.
-/

namespace GuestRuntime.Cursor

open Mini

/-- From `i` on the characters are read in rounds that each take one at least, and that end. -/
structure LexesOn (cs : List Char) (i : Nat) : Prop where
  lexeme : ∀ rounds ts, i < cs.length → cs.length - i < rounds →
    Takes cs i ((lexeme cs rounds ts).run i) (Token.readFrom ⟨ts, .between⟩ (cs.drop i))
  lex : ∀ rounds n, cs.length - i < rounds → cs.length - i < n →
    Concludes cs.length i ((lex cs rounds n []).run i) (Token.lex (cs.drop i))

/-- From `i` on every function of the grammar moves on or fails, and ends, its calls nesting no
deeper than what is linear in the tokens left and its loops having no more rounds than those. -/
structure ParsesOn (ts : List Token) (i : Nat) : Prop where
  level : ∀ l rounds d, ts.length - i < rounds → l.depth (ts.length - i) ≤ d →
    Follows ts i ((level ts rounds d l).run i) (l.rule.reading (ts.drop i))
  statement : ∀ rounds d, ts.length - i < rounds → 4 * (ts.length - i) + 5 ≤ d →
    Follows ts i ((statement ts rounds d).run i) (Mini.statement (ts.drop i))
  program : ∀ rounds d n, ts.length - i < rounds → 4 * (ts.length - i) + 5 ≤ d →
    ts.length - i < n →
    Concludes ts.length i ((program ts rounds d n []).run i) (Mini.program (ts.drop i))

variable {cs : List Char} {ts : List Token} {i : Nat}

theorem lexesOn (hi : i ≤ cs.length) : LexesOn cs i where
  lexeme _ ts hlt hr := lexeme_takes hlt hr ts
  lex _ _ hr hn := lex_concludes hi hr hn []

theorem parsesOn (hi : i ≤ ts.length) : ParsesOn ts i where
  level l rounds d hr hdeep := level_follows ts rounds d l i hi hr hdeep
  statement _ _ hr hdeep := statement_follows hi hr hdeep
  program rounds d n hr hdeep hn := by
    have hmap (y : Except Failure (List Expr)) : y.map ([] ++ ·) = y := by cases y <;> rfl
    have hprogram := program_concludes hi hr hdeep hn []
    rwa [hmap] at hprogram

/-- From every position of a text and of a list of tokens, reading moves on or fails, and ends. -/
theorem reading_ends (cs : List Char) (ts : List Token) :
    (∀ i, i ≤ cs.length → LexesOn cs i) ∧ ∀ i, i ≤ ts.length → ParsesOn ts i :=
  ⟨fun _ hi => lexesOn hi, fun _ hi => parsesOn hi⟩

/-- A call that is not closed, behind a newline. -/
def unclosed : List Token := [.newline, .ident "f", .op '(', .newline, .op '-', .newline]

/-- A minus with nothing behind it, inside the call, and a string that is not closed. -/
theorem reading_ends_unclosed :
    Follows unclosed 1 ((level unclosed 6 24 .sum).run 1) (.fail .error []) ∧
      Takes ['\'', '\\'] 0 ((lexeme ['\'', '\\'] 3 []).run 0) (.error .incomplete) := by
  obtain ⟨hlex, hparse⟩ := reading_ends ['\'', '\\'] unclosed
  exact ⟨(hparse 1 (by decide)).level .sum 6 24 (by decide) (by decide),
    (hlex 0 (by decide)).lexeme 3 [] (by decide) (by decide)⟩

/-! ### A whole text -/

/-- What a reader gives or halts with, from the beginning. -/
def started {α : Type} (x : Reader α) : Except Halt α :=
  match x.run 0 with
  | .ok a _ => .ok a
  | .error h _ => .error h

/-- The expressions of a text, with rounds and depth for its length and that of its tokens. -/
def parse (source : List Char) : Except Halt (List Expr) := do
  let ts ← started (lex source (source.length + 1) (source.length + 1) [])
  started (program ts (ts.length + 1) (4 * ts.length + 5) (ts.length + 1) [])

theorem Concludes.started_eq {α : Type} {length : Nat} {x : Reader α} {y : Except Failure α}
    (h : Concludes length 0 (x.run 0) y) : started x = y.mapError Halt.failed := by
  unfold started
  generalize x.run 0 = z at h
  cases h <;> rfl

/-- No steps are used up: the expressions are those of the text, and so are the failures. -/
theorem parse_eq (source : List Char) :
    parse source = (Mini.parse source).mapError Halt.failed := by
  have hfrom : LexesOn source 0 := lexesOn (Nat.zero_le _)
  have hlex := hfrom.lex (source.length + 1) (source.length + 1) (by omega) (by omega)
  rw [parse, hlex.started_eq, Mini.parse, List.drop_zero]
  cases Token.lex source with
  | error why => rfl
  | ok ts =>
    have hfrom : ParsesOn ts 0 := parsesOn (Nat.zero_le _)
    have hprogram := hfrom.program (ts.length + 1) (4 * ts.length + 5) (ts.length + 1) (by omega)
      (by omega) (by omega)
    exact hprogram.started_eq

end GuestRuntime.Cursor
