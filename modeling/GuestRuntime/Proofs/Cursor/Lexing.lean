import GuestRuntime.Proofs.Checked.Scanning
import GuestRuntime.Proofs.Cursor.Reader

/-!
Tokens read by a loop with loops inside. A round of the outer loop looks at one character and does
what it says, which may be to move over all that continues it:

        x1 <- "a\"b"  # c
        └┘   one round, one loop inside
           └┘  one round
              └────┘  one round, and a round of its inner loop for two characters after a backslash

Every round takes a character or fails, so with more rounds than characters left none of the loops
runs out of them, and the tokens are those of the text. Main statements: `lexeme_takes` and
`lex_concludes`.
-/

namespace GuestRuntime.Cursor

open Mini Mini.Token
open Checked (of_drop_eq_cons of_drop_eq_nil of_getElem?_eq)

section Definitions

variable (cs : List Char) (rounds : Nat)

/-- The text up to the quote. -/
def quoted (q : Char) : Nat → List Char → Reader (List Char)
  | 0, _ => throw .exhausted
  | n + 1, seen => do
    match ← peek cs with
    | none => refuse .incomplete
    | some c =>
      if c = q then return seen.reverse
      else if c = '\\' then do
        match cs[(← get) + 1]? with
        | none => refuse .incomplete
        | some e => do
          advance
          advance
          quoted q n (unescape e :: seen)
      else do
        advance
        quoted q n (c :: seen)

/-- What continues from the position on. -/
def taken (continues : Char → Bool) : Reader (List Char) := do
  let i ← get
  skipWhile cs continues rounds
  let j ← get
  return (cs.take j).drop i

section Lexemes

variable (ts : List Token)

def readString (q : Char) : Reader (List Token) := do
  advance
  let s ← quoted cs q rounds []
  advance
  return .str (String.ofList s) :: ts

def readArrow : Reader (List Token) := do
  if cs[(← get) + 1]? = some '-' then do
    advance
    advance
    return .assign :: ts
  else refuse .error

def readNumber : Reader (List Token) := do
  let text ← taken cs rounds continuesNumber
  if (← peek cs) = some 'L' then do
    advance
    match integer? text with
    | some n => return .int n :: ts
    | none => refuse .error
  else
    match number? text with
    | some x => return .num x :: ts
    | none => refuse .error

def readWord : Reader (List Token) := do
  let text ← taken cs rounds continuesWord
  return .ident (String.ofList text) :: ts

/-- One round: the tokens with the one that begins at the position, if one does. -/
def lexeme : Reader (List Token) := do
  match ← peek cs with
  | none => return ts
  | some c =>
    if c = ' ' ∨ c = '\t' ∨ c = '\r' then do
      advance
      return ts
    else if c = '\n' ∨ c = ';' then do
      advance
      return .newline :: ts
    else if c = '#' then do
      skipWhile cs (· != '\n') rounds
      return ts
    else if c = '"' ∨ c = '\'' then readString cs rounds ts c
    else if c = '<' then readArrow cs ts
    else if isOperator c then do
      advance
      return .op c :: ts
    else if c.isDigit then readNumber cs rounds ts
    else if beginsWord c then readWord cs rounds ts
    else refuse .error

end Lexemes

/-- Round after round until the text ends. -/
def lex : Nat → List Token → Reader (List Token)
  | 0, _ => throw .exhausted
  | n + 1, ts => do
    if (← get) < cs.length then do
      let us ← lexeme cs rounds ts
      lex n us
    else return ts.reverse

end Definitions

/-- From `i` a round ends: behind `i`, and the text is read on with the tokens that there are now,
or with the failure that reading the text is, and no earlier than `i`. -/
inductive Takes (cs : List Char) (i : Nat) :
    EStateM.Result Halt Nat (List Token) → Except Failure (List Token) → Prop
  | ok {us j} (hij : i < j) (hj : j ≤ cs.length) :
      Takes cs i (.ok us j) (readFrom ⟨us, .between⟩ (cs.drop j))
  | fail {why j} (hij : i ≤ j) (hj : j ≤ cs.length) :
      Takes cs i (.error (.failed why) j) (.error why)

/-- From `i` a string ends at its quote, or the text ends inside it. -/
inductive Quotes (cs : List Char) (ts : List Token) (i : Nat) :
    EStateM.Result Halt Nat (List Char) → Except Failure (List Token) → Prop
  | ok {s j} (hij : i ≤ j) (hj : j < cs.length) : Quotes cs ts i (.ok s j)
      (readFrom ⟨.str (String.ofList s) :: ts, .between⟩ (cs.drop (j + 1)))
  | fail {j} (hij : i ≤ j) (hj : j ≤ cs.length) :
      Quotes cs ts i (.error (.failed .incomplete) j) (.error .incomplete)

variable {cs : List Char} {i j n rounds : Nat} {ts : List Token} {c q : Char}
  {rest seen : List Char}

/-! ### Inner loops -/

theorem Quotes.mono {z : EStateM.Result Halt Nat (List Char)} {y : Except Failure (List Token)}
    (h : Quotes cs ts j z y) (hij : i ≤ j) : Quotes cs ts i z y := by
  cases h with
  | ok hjk hk => exact .ok (Nat.le_trans hij hjk) hk
  | fail hjk hk => exact .fail (Nat.le_trans hij hjk) hk

/-- The loop for a string takes a character in each round, or two. -/
theorem quoted_quotes (hi : i ≤ cs.length) (hn : cs.length - i < n) :
    Quotes cs ts i ((quoted cs q n seen).run i) (readFrom ⟨ts, .string q seen⟩ (cs.drop i)) := by
  induction n generalizing i seen with
  | zero => omega
  | succ n ih =>
    rw [quoted, run_bind_ok run_peek]
    rcases hd : cs.drop i with _ | ⟨c, rest⟩
    · rw [(of_drop_eq_nil hd).2]
      exact .fail (Nat.le_refl i) hi
    obtain ⟨hlt, hc, rfl⟩ := of_drop_eq_cons hd
    rw [hc]
    simp only
    by_cases hq : c = q
    · subst hq
      rw [readFrom_closeQuote, if_pos rfl]
      exact .ok (Nat.le_refl i) hlt
    rw [if_neg hq]
    by_cases hb : c = '\\'
    · subst hb
      rw [if_pos rfl, run_bind_ok (EStateM.run_get i)]
      rcases hd' : cs.drop (i + 1) with _ | ⟨d, rest⟩
      · rw [(of_drop_eq_nil hd').2, readFrom_cons (step_backslash hq)]
        exact .fail (Nat.le_refl i) hi
      obtain ⟨hlt', hc', rfl⟩ := of_drop_eq_cons hd'
      rw [hc', readFrom_backslash hq]
      simp only
      rw [run_bind_ok run_advance, run_bind_ok run_advance]
      exact (ih (i := i + 1 + 1) hlt' (by omega)).mono (by omega)
    · rw [if_neg hb, run_bind_ok run_advance, readFrom_inString hq hb]
      exact (ih (i := i + 1) hlt (by omega)).mono (by omega)

/-- What begins at a position and is continued, and the text behind it. -/
theorem exists_taken {p : Char → Bool} (hd : cs.drop i = c :: rest) (hp : p c)
    (hr : cs.length - i < rounds) :
    ∃ run j, (skipWhile cs p rounds).run i = .ok () j ∧
      (taken cs rounds p).run i = .ok (c :: run) j ∧ rest = run ++ cs.drop j ∧
      (∀ d ∈ run, p d) ∧ (∀ d ∈ (cs.drop j).head?, p d = false) ∧ i < j ∧ j ≤ cs.length := by
  obtain ⟨hi, -, -⟩ := of_drop_eq_cons hd
  obtain ⟨j, hskip, hij, hj, hdrop⟩ := exists_skipWhile (Nat.le_of_lt hi) hr
  rw [hd, List.dropWhile_cons_of_pos hp] at hdrop
  have hsplit : rest = rest.takeWhile p ++ cs.drop j := by
    rw [hdrop, List.takeWhile_append_dropWhile]
  -- The loop has gone on by the first character and all that continues it.
  have hlen : j = i + (rest.takeWhile p).length + 1 := by
    have hrest := congrArg List.length hd
    have hparts := congrArg List.length hsplit
    simp only [List.length_drop, List.length_cons, List.length_append] at hrest hparts
    omega
  refine ⟨rest.takeWhile p, j, hskip, ?_, hsplit, fun d => List.mem_takeWhile_imp, ?_, by omega, hj⟩
  · rw [taken, run_bind_ok (EStateM.run_get i), run_bind_ok hskip, run_bind_ok (EStateM.run_get j)]
    have hslice : (cs.take j).drop i = c :: rest.takeWhile p := by
      rw [List.drop_take, hd, hlen, show i + (rest.takeWhile p).length + 1 - i =
        (rest.takeWhile p).length + 1 by omega, List.take_succ_cons]
      congr 1
      exact (List.prefix_iff_eq_take.mp (List.takeWhile_prefix p)).symm
    rw [hslice]
    rfl
  · rw [hdrop, ← List.find?_not_eq_head?_dropWhile]
    intro d hfound
    simpa using List.find?_some hfound

/-! ### One round -/

section Lexemes

variable (hd : cs.drop i = c :: rest)

include hd

/-- A character that is a token, or none, by itself. -/
theorem one_takes {us : List Token} (h : Token.step ⟨ts, .between⟩ c = some ⟨us, .between⟩) :
    Takes cs i ((advance >>= fun _ => pure us).run i) (readFrom ⟨ts, .between⟩ (c :: rest)) := by
  obtain ⟨hi, -, rfl⟩ := of_drop_eq_cons hd
  rw [run_bind_ok run_advance, readFrom_cons h]
  exact .ok (Nat.lt_succ_self i) hi

/-- A comment goes as far as its line. -/
theorem comment_takes (hc : c = '#') (hr : cs.length - i < rounds) :
    Takes cs i ((skipWhile cs (· != '\n') rounds >>= fun _ => pure ts).run i)
      (readFrom ⟨ts, .between⟩ (c :: rest)) := by
  subst hc
  obtain ⟨run, j, hskip, -, rfl, hrun, hafter, hij, hj⟩ :=
    exists_taken (p := (· != '\n')) hd rfl hr
  rw [run_bind_ok hskip, readFrom_comment hrun hafter]
  exact .ok hij hj

theorem readString_takes (hc : IsQuote c) (hr : cs.length - i < rounds) :
    Takes cs i ((readString cs rounds ts c).run i) (readFrom ⟨ts, .between⟩ (c :: rest)) := by
  obtain ⟨hi, -, rfl⟩ := of_drop_eq_cons hd
  have hstring : Quotes cs ts (i + 1) ((quoted cs c rounds []).run (i + 1))
      (readFrom ⟨ts, .string c []⟩ (cs.drop (i + 1))) := quoted_quotes hi (by omega)
  rw [readString, run_bind_ok run_advance, readFrom_openQuote hc]
  generalize hx : (quoted cs c rounds []).run (i + 1) = z at hstring
  generalize readFrom ⟨ts, .string c []⟩ (cs.drop (i + 1)) = y at hstring
  cases hstring with
  | ok hij hj =>
    rw [run_bind_ok hx, run_bind_ok run_advance]
    exact .ok (by omega) hj
  | fail hij hj =>
    rw [run_bind_error hx]
    exact .fail (by omega) hj

theorem readArrow_takes (hc : c = '<') :
    Takes cs i ((readArrow cs ts).run i) (readFrom ⟨ts, .between⟩ (c :: rest)) := by
  subst hc
  obtain ⟨hi, -, rfl⟩ := of_drop_eq_cons hd
  rw [readArrow, run_bind_ok (EStateM.run_get i)]
  by_cases hdash : cs[i + 1]? = some '-'
  · obtain ⟨hi', hd'⟩ := of_getElem?_eq hdash
    rw [if_pos hdash, run_bind_ok run_advance, run_bind_ok run_advance, hd']
    exact .ok (j := i + 1 + 1) (by omega) hi'
  · rw [if_neg hdash, readFrom_less (by rwa [List.head?_drop])]
    exact .fail (Nat.le_refl i) (Nat.le_of_lt hi)

theorem readWord_takes (hc : beginsWord c) (hr : cs.length - i < rounds) :
    Takes cs i ((readWord cs rounds ts).run i) (readFrom ⟨ts, .between⟩ (c :: rest)) := by
  obtain ⟨run, j, -, htaken, rfl, hrun, hafter, hij, hj⟩ :=
    exists_taken hd (continuesWord_of_beginsWord hc) hr
  rw [readWord, run_bind_ok htaken, readFrom_word hc hrun hafter]
  exact .ok hij hj

theorem readNumber_takes (hc : c.isDigit) (hr : cs.length - i < rounds) :
    Takes cs i ((readNumber cs rounds ts).run i) (readFrom ⟨ts, .between⟩ (c :: rest)) := by
  obtain ⟨run, j, -, htaken, rfl, hrun, hafter, hij, hj⟩ :=
    exists_taken (p := continuesNumber) hd (by simp [continuesNumber, hc]) hr
  rw [readNumber, run_bind_ok htaken, run_bind_ok run_peek]
  by_cases hL : cs[j]? = some 'L'
  · obtain ⟨hlt, hd'⟩ := of_getElem?_eq hL
    rw [if_pos hL, run_bind_ok run_advance, hd', readFrom_integer hc hrun]
    cases integer? (c :: run) with
    | none => exact .fail (by omega) hlt
    | some n => exact .ok (j := j + 1) (by omega) hlt
  · rw [if_neg hL, readFrom_number hc hrun hafter (by rwa [List.head?_drop])]
    cases number? (c :: run) with
    | none => exact .fail (Nat.le_of_lt hij) hj
    | some x => exact .ok hij hj

end Lexemes

/-- A round at a position with something behind it takes a character at least, or fails. -/
theorem lexeme_takes (hi : i < cs.length) (hr : cs.length - i < rounds) (ts : List Token) :
    Takes cs i ((lexeme cs rounds ts).run i) (readFrom ⟨ts, .between⟩ (cs.drop i)) := by
  rcases hd : cs.drop i with _ | ⟨c, rest⟩
  · exact absurd (of_drop_eq_nil hd).1 (Nat.not_le.mpr hi)
  rw [lexeme, run_bind_ok run_peek, (of_drop_eq_cons hd).2.1]
  have hrefuse (h : ∀ ts, Token.step ⟨ts, .between⟩ c = none) :
      Takes cs i (.error (.failed .error) i) (readFrom ⟨ts, .between⟩ (c :: rest)) := by
    rw [readFrom_cons_none (h ts)]
    exact .fail (Nat.le_refl i) (Nat.le_of_lt hi)
  exact begin_choice (P := fun x : Reader (List Token) =>
      Takes cs i (x.run i) (readFrom ⟨ts, .between⟩ (c :: rest)))
    (fun h => one_takes hd (h ts))
    (fun h => one_takes hd (h ts))
    (fun h => comment_takes hd h hr)
    (fun h => readString_takes hd h hr)
    (fun h => readArrow_takes hd h)
    (fun h => one_takes hd (step_operator h))
    (fun h => readNumber_takes hd h hr)
    (fun h => readWord_takes hd h hr)
    hrefuse

/-! ### All rounds -/

theorem lex_concludes (hi : i ≤ cs.length) (hr : cs.length - i < rounds)
    (hn : cs.length - i < n) (ts : List Token) :
    Concludes cs.length i ((lex cs rounds n ts).run i) (readFrom ⟨ts, .between⟩ (cs.drop i)) := by
  induction n generalizing i ts with
  | zero => omega
  | succ n ih =>
    rw [lex, run_bind_ok (EStateM.run_get i)]
    by_cases hlt : i < cs.length
    · have htakes := lexeme_takes hlt hr ts
      rw [if_pos hlt]
      generalize hx : (lexeme cs rounds ts).run i = z at htakes
      generalize readFrom ⟨ts, .between⟩ (cs.drop i) = y at htakes
      cases htakes with
      | @ok us j hij hj =>
        rw [run_bind_ok hx]
        exact (ih hj (by omega) (by omega) us).mono (Nat.le_of_lt hij)
      | fail hij hj =>
        rw [run_bind_error hx]
        exact .fail hij hj
    · obtain rfl : i = cs.length := by omega
      rw [if_neg hlt, List.drop_length]
      exact .ok

end GuestRuntime.Cursor
