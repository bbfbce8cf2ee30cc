import GuestRuntime.Proofs.Checked.Step
import GuestRuntime.Proofs.Syntax.Spelling

/-!
Tokens read by position. The characters stand in memory and an index goes over them:

        x <- 12 + "a b"
        ▲ i                 word: while a character continues it, i + 1
             ▲ i            number: the slice from its first character to i
                  ▲ i       string: until its quote, a backslash taking two

Every character is fetched by index, every index is counted up, and every loop is given as many
rounds as there are characters. From an index the tokens are those of the text behind it, and
nothing is trapped, however the text goes on. Main statement: `Checked.lex_eq`.
-/

namespace GuestRuntime.Checked

open Mini Mini.Token

/-- A reading, which may fail and may be trapped. -/
abbrev Attempt (α : Type) := ExceptT Failure Step α

/-- A step of a reading. -/
def checked {α : Type} (x : Step α) : Attempt α := ExceptT.lift x

section Definitions

variable (cs : List Char)

/-- The rest of a string, and the index of the quote that ends it. -/
def quoted (q : Char) : Nat → Nat → List Char → Attempt (List Char × Nat)
  | 0, _, _ => checked (.error .endless)
  | n + 1, i, seen =>
    match cs[i]? with
    | none => throw .incomplete
    | some c =>
      if c = q then return (seen.reverse, i)
      else if c = '\\' then do
        let i ← checked (add i 1)
        match cs[i]? with
        | none => throw .incomplete
        | some e => quoted q n (← checked (add i 1)) (unescape e :: seen)
      else do quoted q n (← checked (add i 1)) (c :: seen)

section Tokens

variable (i : Nat) (ts : List Token)

def readComment : Attempt (Nat × List Token) :=
  return (← checked (advance cs (· != '\n') (rounds cs) i), ts)

def readString (q : Char) : Attempt (Nat × List Token) := do
  let (s, j) ← quoted cs q (rounds cs) (← checked (add i 1)) []
  return (← checked (add j 1), .str (String.ofList s) :: ts)

def readArrow : Attempt (Nat × List Token) := do
  if cs[(← checked (add i 1))]? = some '-' then return (← checked (add i 2), .assign :: ts)
  else throw .error

def readNumber : Attempt (Nat × List Token) := do
  let j ← checked (advance cs continuesNumber (rounds cs) i)
  let text ← checked (slice cs i j)
  if cs[j]? = some 'L' then
    match integer? text with
    | some n => return (← checked (add j 1), .int n :: ts)
    | none => throw .error
  else
    match number? text with
    | some x => return (j, .num x :: ts)
    | none => throw .error

def readWord : Attempt (Nat × List Token) := do
  let j ← checked (advance cs continuesWord (rounds cs) i)
  return (j, .ident (String.ofList (← checked (slice cs i j))) :: ts)

/-- What begins at an index, and the index behind it. -/
def readToken : Attempt (Nat × List Token) := do
  let c ← checked (index cs i)
  if c = ' ' ∨ c = '\t' ∨ c = '\r' then return (← checked (add i 1), ts)
  else if c = '\n' ∨ c = ';' then return (← checked (add i 1), .newline :: ts)
  else if c = '#' then readComment cs i ts
  else if c = '"' ∨ c = '\'' then readString cs i ts c
  else if c = '<' then readArrow cs i ts
  else if isOperator c then return (← checked (add i 1), .op c :: ts)
  else if c.isDigit then readNumber cs i ts
  else if beginsWord c then readWord cs i ts
  else throw .error

end Tokens

/-- The tokens from an index on, behind those read before. -/
def lexFrom : Nat → Nat → List Token → Attempt (List Token)
  | 0, _, _ => checked (.error .endless)
  | n + 1, i, ts =>
    if i < cs.length then do
      let (i, ts) ← readToken cs i ts
      lexFrom n i ts
    else return ts.reverse

/-- The tokens of a text. -/
def lex : Attempt (List Token) := lexFrom cs (rounds cs) 0 []

end Definitions

variable {cs : List Char} {i j n : Nat} {ts : List Token} {c q : Char} {rest seen : List Char}

section Attempt

variable {α β : Type}

@[simp] theorem checked_ok_bind (a : α) (f : α → Attempt β) : checked (.ok a) >>= f = f a := rfl

@[simp] theorem fail_bind (w : Failure) (f : α → Attempt β) :
    (throw w : Attempt α) >>= f = throw w := rfl

@[simp] theorem return_bind (a : α) (f : α → Attempt β) : (pure a : Attempt α) >>= f = f a := rfl

end Attempt

/-- What a string comes to that is read from an index on, the text behind it reading as `r`: the
text ends inside it, or its quote is reached. -/
inductive Quotes (cs : List Char) (ts : List Token) (i : Nat) (r : Except Failure (List Token)) :
    Attempt (List Char × Nat) → Prop
  | ends (h : r = .error .incomplete) : Quotes cs ts i r (throw .incomplete)
  | reaches {s j} (hij : i ≤ j) (hj : j < cs.length)
      (h : r = readFrom ⟨.str (String.ofList s) :: ts, .between⟩ (cs.drop (j + 1))) :
      Quotes cs ts i r (pure (s, j))

theorem Quotes.mono {r : Except Failure (List Token)} {x : Attempt (List Char × Nat)}
    (h : Quotes cs ts j r x) (hij : i ≤ j) : Quotes cs ts i r x := by
  cases h with
  | ends h => exact .ends h
  | reaches hjk hk h => exact .reaches (Nat.le_trans hij hjk) hk h

theorem quoted_quotes (hcs : cs.length ≤ capacity) (hi : i ≤ cs.length)
    (hn : (cs.drop i).length < n) :
    Quotes cs ts i (readFrom ⟨ts, .string q seen⟩ (cs.drop i)) (quoted cs q n i seen) := by
  induction n generalizing i seen with
  | zero => cases hn
  | succ n ih =>
    rw [quoted]
    rcases hd : cs.drop i with _ | ⟨c, rest⟩
    · rw [(of_drop_eq_nil hd).2]
      exact .ends rfl
    obtain ⟨hlt, hc, rfl⟩ := of_drop_eq_cons hd
    rw [hd, List.length_cons] at hn
    have hadd := add_one_eq hcs hi
    simp only [hc]
    by_cases hq : c = q
    · subst hq
      rw [readFrom_closeQuote, if_pos rfl]
      exact .reaches (Nat.le_refl i) hlt rfl
    by_cases hb : c = '\\'
    · subst hb
      simp only [if_neg hq, if_true, hadd, checked_ok_bind]
      rcases hd' : cs.drop (i + 1) with _ | ⟨d, rest⟩
      · rw [(of_drop_eq_nil hd').2, readFrom_cons (step_backslash hq)]
        exact .ends rfl
      obtain ⟨hlt', hc', rfl⟩ := of_drop_eq_cons hd'
      simp only [hc', add_one_eq hcs (Nat.le_of_lt hlt'), checked_ok_bind]
      rw [readFrom_backslash hq]
      rw [hd', List.length_cons] at hn
      exact (ih (i := i + 1 + 1) hlt' (by omega)).mono (by omega)
    · simp only [if_neg hq, if_neg hb, hadd, checked_ok_bind]
      rw [readFrom_inString hq hb]
      exact (ih (i := i + 1) hlt (by omega)).mono (by omega)

/-- What a token comes to that is read from an index on, the text behind it reading as `r`: it fails
as the text does, or the rest is read from a later index, with one token more at most. -/
inductive Reads (cs : List Char) (i : Nat) (ts : List Token) (r : Except Failure (List Token)) :
    Attempt (Nat × List Token) → Prop
  | fails {w} (h : r = .error w) : Reads cs i ts r (throw w)
  | goes {j us} (hij : i < j) (hj : j ≤ cs.length) (hus : us.length ≤ ts.length + 1)
      (h : r = readFrom ⟨us, .between⟩ (cs.drop j)) : Reads cs i ts r (pure (j, us))

/-- What begins at an index and is continued, and the text behind it. -/
theorem exists_run {p : Char → Bool} (hcs : cs.length ≤ capacity) (hd : cs.drop i = c :: rest)
    (hp : p c) :
    ∃ run j, rest = run ++ cs.drop j ∧ (∀ d ∈ run, p d) ∧ (∀ d ∈ (cs.drop j).head?, p d = false) ∧
      i < j ∧ j ≤ cs.length ∧ advance cs p (rounds cs) i = .ok j ∧
      slice cs i j = .ok (c :: run) := by
  obtain ⟨hi, -, -⟩ := of_drop_eq_cons hd
  obtain ⟨j, hij, hj, hadvance, hslice, hdrop⟩ := exists_advance hcs p (Nat.le_of_lt hi)
  rw [hd, List.takeWhile_cons, if_pos hp] at hslice
  rw [hd, List.dropWhile_cons, if_pos hp] at hdrop
  refine ⟨rest.takeWhile p, j, ?_, fun d => List.mem_takeWhile_imp, ?_, ?_, hj, hadvance, hslice⟩
  · rw [hdrop, List.takeWhile_append_dropWhile]
  · rw [hdrop, ← List.find?_not_eq_head?_dropWhile]
    intro d hfound
    simpa using List.find?_some hfound
  · -- The loop has gone on: what is behind it is shorter.
    have hlen : (cs.drop j).length ≤ rest.length := hdrop ▸ (List.dropWhile_sublist p).length_le
    have hrest := congrArg List.length hd
    rw [List.length_drop, List.length_cons] at hrest
    rw [List.length_drop] at hlen
    omega

/-! ### One token -/

section Tokens

variable (hcs : cs.length ≤ capacity) (hd : cs.drop i = c :: rest)

include hcs hd

/-- A character that is a token, or none, by itself. -/
theorem one_reads {us : List Token} (hus : us.length ≤ ts.length + 1)
    (h : Token.step ⟨ts, .between⟩ c = some ⟨us, .between⟩) :
    Reads cs i ts (readFrom ⟨ts, .between⟩ (c :: rest)) (do return (← checked (add i 1), us)) := by
  obtain ⟨hi, -, hrest⟩ := of_drop_eq_cons hd
  rw [add_one_eq hcs (Nat.le_of_lt hi), checked_ok_bind]
  refine .goes (Nat.lt_succ_self i) hi hus ?_
  rw [readFrom_cons h, hrest]

/-- A comment goes as far as its line. -/
theorem readComment_reads (hc : c = '#') :
    Reads cs i ts (readFrom ⟨ts, .between⟩ (c :: rest)) (readComment cs i ts) := by
  subst hc
  obtain ⟨run, j, rfl, hrun, hafter, hij, hj, hadvance, -⟩ :=
    exists_run (p := (· != '\n')) hcs hd rfl
  rw [readComment, hadvance, checked_ok_bind, readFrom_comment hrun hafter]
  exact .goes hij hj (Nat.le_succ _) rfl

theorem readString_reads (hc : IsQuote c) :
    Reads cs i ts (readFrom ⟨ts, .between⟩ (c :: rest)) (readString cs i ts c) := by
  obtain ⟨hi, -, rfl⟩ := of_drop_eq_cons hd
  have hn : (cs.drop (i + 1)).length < rounds cs := by
    rw [List.length_drop, rounds]
    omega
  have hstring : Quotes cs ts (i + 1) (readFrom ⟨ts, .string c []⟩ (cs.drop (i + 1)))
      (quoted cs c (rounds cs) (i + 1) []) := quoted_quotes hcs hi hn
  rw [readString, add_one_eq hcs (Nat.le_of_lt hi), checked_ok_bind, readFrom_openQuote hc]
  generalize quoted cs c (rounds cs) (i + 1) [] = x at hstring
  cases hstring with
  | ends h => exact .fails h
  | reaches hij hj h =>
    simp only [return_bind, add_one_eq hcs (Nat.le_of_lt hj), checked_ok_bind]
    exact .goes (by omega) hj (Nat.le_refl _) h

theorem readArrow_reads (hc : c = '<') :
    Reads cs i ts (readFrom ⟨ts, .between⟩ (c :: rest)) (readArrow cs i ts) := by
  subst hc
  obtain ⟨hi, -, rfl⟩ := of_drop_eq_cons hd
  rw [readArrow, add_one_eq hcs (Nat.le_of_lt hi), checked_ok_bind]
  by_cases hdash : cs[i + 1]? = some '-'
  · obtain ⟨hi', hd'⟩ := of_getElem?_eq hdash
    have hi2 : add i 2 = .ok (i + 2) :=
      add_eq (add_capacity_le (Nat.le_trans (Nat.le_of_lt hi) hcs) (Nat.le_refl 2))
    rw [if_pos hdash, hi2, checked_ok_bind, hd']
    exact .goes (by omega) hi' (Nat.le_refl _) rfl
  · rw [if_neg hdash]
    exact .fails (readFrom_less (by rwa [List.head?_drop]))

theorem readWord_reads (hc : beginsWord c) :
    Reads cs i ts (readFrom ⟨ts, .between⟩ (c :: rest)) (readWord cs i ts) := by
  obtain ⟨run, j, rfl, hrun, hafter, hij, hj, hadvance, hslice⟩ :=
    exists_run hcs hd (continuesWord_of_beginsWord hc)
  rw [readWord, hadvance, checked_ok_bind, hslice, checked_ok_bind]
  exact .goes hij hj (Nat.le_refl _) (readFrom_word hc hrun hafter)

theorem readNumber_reads (hc : c.isDigit) :
    Reads cs i ts (readFrom ⟨ts, .between⟩ (c :: rest)) (readNumber cs i ts) := by
  obtain ⟨run, j, rfl, hrun, hafter, hij, hj, hadvance, hslice⟩ :=
    exists_run (p := continuesNumber) hcs hd (by simp [continuesNumber, hc])
  rw [readNumber, hadvance, checked_ok_bind, hslice, checked_ok_bind]
  by_cases hL : cs[j]? = some 'L'
  · obtain ⟨hlt, hd'⟩ := of_getElem?_eq hL
    rw [if_pos hL, hd', readFrom_integer hc hrun]
    cases integer? (c :: run) with
    | none => exact .fails rfl
    | some n =>
      simp only [add_one_eq hcs hj, checked_ok_bind]
      exact .goes (by omega) hlt (Nat.le_refl _) rfl
  · rw [if_neg hL, readFrom_number hc hrun hafter (by rwa [List.head?_drop])]
    cases number? (c :: run) with
    | none => exact .fails rfl
    | some x => exact .goes hij hj (Nat.le_refl _) rfl

end Tokens

/-- An index behind which there are characters gives a token, or fails as the text does. -/
theorem readToken_reads (hcs : cs.length ≤ capacity) (hi : i < cs.length) :
    Reads cs i ts (readFrom ⟨ts, .between⟩ (cs.drop i)) (readToken cs i ts) := by
  rcases hd : cs.drop i with _ | ⟨c, rest⟩
  · exact absurd (of_drop_eq_nil hd).1 (Nat.not_le.mpr hi)
  rw [readToken, index_eq (of_drop_eq_cons hd).2.1, checked_ok_bind]
  exact begin_choice (P := Reads cs i ts (readFrom ⟨ts, .between⟩ (c :: rest)))
    (fun h => one_reads hcs hd (Nat.le_succ _) (h ts))
    (fun h => one_reads hcs hd (Nat.le_refl _) (h ts))
    (readComment_reads hcs hd)
    (readString_reads hcs hd)
    (readArrow_reads hcs hd)
    (fun h => one_reads hcs hd (Nat.le_refl _) (step_operator h))
    (readNumber_reads hcs hd)
    (readWord_reads hcs hd)
    (fun h => .fails (readFrom_cons_none (h ts)))

/-! ### All tokens -/

/-- What a plain reading gives, as one that is not trapped. -/
def answered {α : Type} : Except Failure α → Attempt α
  | .ok a => pure a
  | .error w => throw w

/-- From an index the tokens are those of the text behind it, no more than it has characters. -/
theorem lexFrom_eq (hcs : cs.length ≤ capacity) (hi : i ≤ cs.length)
    (hn : (cs.drop i).length < n) :
    lexFrom cs n i ts = answered (readFrom ⟨ts, .between⟩ (cs.drop i)) ∧
      ∀ us, readFrom ⟨ts, .between⟩ (cs.drop i) = .ok us →
        us.length + i ≤ ts.length + cs.length := by
  induction n generalizing i ts with
  | zero => cases hn
  | succ n ih =>
    rw [lexFrom]
    by_cases hlt : i < cs.length
    · have hread : Reads cs i ts (readFrom ⟨ts, .between⟩ (cs.drop i)) (readToken cs i ts) :=
        readToken_reads hcs hlt
      rw [if_pos hlt]
      generalize readToken cs i ts = x at hread
      cases hread with
      | fails h =>
        rw [h]
        exact ⟨rfl, nofun⟩
      | @goes j us hij hj hus h =>
        rw [List.length_drop] at hn
        have hn' : (cs.drop j).length < n := by
          rw [List.length_drop]
          omega
        obtain ⟨hgo, hlen⟩ := ih hj hn'
        rw [return_bind, h]
        exact ⟨hgo, fun us' hus' => by have := hlen us' hus'; omega⟩
    · rw [if_neg hlt, List.drop_eq_nil_of_le (Nat.not_lt.mp hlt)]
      refine ⟨rfl, ?_⟩
      rintro us ⟨⟩
      have hlen : ts.reverse.length = ts.length := List.length_reverse
      change ts.reverse.length + i ≤ _
      omega

/-- Read by position, a text that fits in memory has the tokens it has, and reading it ends without
a trap. -/
theorem lex_eq (hcs : cs.length ≤ capacity) : lex cs = answered (Token.lex cs) :=
  (lexFrom_eq hcs (Nat.zero_le _) (Nat.lt_succ_self _)).1

/-- A text has no more tokens than characters. -/
theorem length_le_of_lex (hcs : cs.length ≤ capacity) (h : Token.lex cs = .ok ts) :
    ts.length ≤ cs.length := by
  have hlen : ts.length + 0 ≤ ([] : List Token).length + cs.length :=
    (lexFrom_eq hcs (Nat.zero_le _) (Nat.lt_succ_self _)).2 ts h
  simpa using hlen

end GuestRuntime.Checked
