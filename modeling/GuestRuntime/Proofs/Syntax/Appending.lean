import GuestRuntime.Proofs.Syntax.Program
import GuestRuntime.Proofs.Syntax.Spelling

/-!
Text behind text, and tokens behind tokens. Reading carries along the tokens it has, and a line end
finishes whatever token it stands in; so a text behind a line end is read as it is alone:

        s ──lex──▶ ts        s  line end  t ──lex──▶ ts  newline  lex t

A derivation stays one whatever is put behind its rest, unless an opening parenthesis makes a call
of the name that stands last. Main statements: `lex_lines`, `exists_between` and `Derives.append`.
-/

namespace GuestRuntime.Mini

namespace Token

variable {ts us base : List Token} {c : Char} {s s' : Scan} {text : List Char}

/-! ### Tokens that were read before -/

/-- The scan with other tokens read before its own. -/
def Scan.onto (s : Scan) (base : List Token) : Scan := ⟨s.tokens ++ base, s.mode⟩

theorem begin_onto (ts base : List Token) (c : Char) :
    begin (ts ++ base) c = (begin ts c).map (·.onto base) := by
  simp only [begin, apply_ite (Option.map (Scan.onto · base))]
  rfl

theorem closeNumber_onto (ts base : List Token) (read : List Char) :
    closeNumber (ts ++ base) read = (closeNumber ts read).map (· ++ base) := by
  simp [closeNumber, Function.comp_def]

theorem step_onto (s : Scan) (base : List Token) (c : Char) :
    step (s.onto base) c = (step s c).map (·.onto base) := by
  obtain ⟨ts, mode⟩ := s
  cases mode with
  | between => exact begin_onto ts base c
  | comment =>
    simp only [step, Scan.onto, begin_onto]
    split <;> rfl
  | string q read =>
    simp only [step, Scan.onto]
    split
    · rfl
    · split <;> rfl
  | escape q read => rfl
  | number read =>
    simp only [step, Scan.onto, closeNumber_onto]
    split
    · rfl
    · split
      · simp [Function.comp_def]
      · cases closeNumber ts read with
        | none => rfl
        | some us => exact begin_onto us base c
  | word read =>
    simp only [step, Scan.onto]
    split
    · rfl
    · exact begin_onto (closeWord ts read) base c
  | less =>
    simp only [step, Scan.onto]
    split <;> rfl

theorem finish_onto (s : Scan) (base : List Token) :
    finish (s.onto base) = (finish s).map (base.reverse ++ ·) := by
  obtain ⟨ts, mode⟩ := s
  cases mode with
  | between | comment => simp [finish, Scan.onto, Except.map]
  | string | escape | less => rfl
  | number read =>
    simp only [finish, Scan.onto, closeNumber_onto]
    cases closeNumber ts read with
    | none => rfl
    | some us => simp [Except.map]
  | word read => simp [finish, Scan.onto, closeWord, Except.map]

/-- What was read before stands before what is read, and makes no other difference. -/
theorem readFrom_onto (s : Scan) (base : List Token) (text : List Char) :
    readFrom (s.onto base) text = (readFrom s text).map (base.reverse ++ ·) := by
  induction text generalizing s with
  | nil => exact finish_onto s base
  | cons c text ih =>
    have hstep := step_onto s base c
    cases hs : step s c with
    | none =>
      rw [hs] at hstep
      simp [readFrom, scan, List.foldlM_cons, hs, hstep, Except.map]
    | some s' =>
      rw [hs] at hstep
      rw [readFrom_cons hstep, readFrom_cons hs, ih]

/-- Between tokens a text is read as it is alone. -/
theorem readFrom_between (base : List Token) (text : List Char) :
    readFrom ⟨base, .between⟩ text = (lex text).map (base.reverse ++ ·) :=
  readFrom_onto ⟨[], .between⟩ base text

/-! ### Ends of tokens -/

/-- A character that continues nothing is read between tokens, as all that may be behind the last; a
comment ends at the line end alone. -/
theorem step_of_finish (hc : continuesWord c = false) (h : finish s = .ok ts)
    (hmode : s.mode = .comment → c = '\n') : step s c = begin ts.reverse c := by
  obtain ⟨us, mode⟩ := s
  cases mode with
  | between =>
    cases h
    rw [List.reverse_reverse]
    rfl
  | comment =>
    cases h
    rw [List.reverse_reverse, hmode rfl]
    rfl
  | string | escape | less => cases h
  | number read =>
    simp only [finish] at h
    split at h
    · rename_i vs hvs
      cases h
      rw [List.reverse_reverse]
      exact step_closeNumber hc hvs
    · cases h
  | word read =>
    cases h
    rw [List.reverse_reverse]
    exact if_neg (by simp [hc])

theorem step_newline (h : finish s = .ok ts) :
    step s '\n' = some ⟨.newline :: ts.reverse, .between⟩ :=
  step_of_finish (by decide) h fun _ => rfl

theorem exists_scan (h : lex text = .ok ts) :
    ∃ s, scan ⟨[], .between⟩ text = some s ∧ finish s = .ok ts := by
  unfold lex at h
  split at h
  · rename_i s hs
    exact ⟨s, hs, h⟩
  · cases h

/-- A text that can be read, a line end and another text are read one after the other. -/
theorem lex_lines {source : List Char} (h : lex source = .ok ts) (text : List Char) :
    lex (source ++ '\n' :: text) = (lex text).map (ts ++ .newline :: ·) := by
  obtain ⟨s, hs, hfinish⟩ := exists_scan h
  have hread : lex (source ++ '\n' :: text) = readFrom s ('\n' :: text) := readFrom_append hs
  rw [hread, readFrom_cons (step_newline hfinish), readFrom_between]
  simp

/-- A comment or an arrow begins where a blank would end a token; or the comment had begun. -/
theorem begun_of_step {mode : Mode} (h : step s c = some ⟨ts, mode⟩)
    (hmode : mode = .comment ∨ mode = .less) : s = ⟨ts, .comment⟩ ∧ mode = .comment ∨
      ∃ us, step s ' ' = some ⟨us, .between⟩ ∧ begin us c = some ⟨ts, mode⟩ := by
  obtain ⟨us, mode'⟩ := s
  simp only [step] at h
  cases mode' with
  | between => exact .inr ⟨us, rfl, h⟩
  | comment =>
    dsimp only at h
    split_ifs at h with hc
    · rw [hc] at h
      cases h
      simp at hmode
    · cases h
      exact .inl ⟨rfl, rfl⟩
  | string q read =>
    dsimp only at h
    split_ifs at h <;> cases h <;> simp at hmode
  | escape q read =>
    cases h
    simp at hmode
  | number read =>
    dsimp only at h
    split_ifs at h
    · cases h
      simp at hmode
    · obtain ⟨n, -, hn⟩ := Option.map_eq_some_iff.mp h
      cases hn
      simp at hmode
    · obtain ⟨vs, hvs, hb⟩ := Option.bind_eq_some_iff.mp h
      exact .inr ⟨vs, step_closeNumber (by decide) hvs, hb⟩
  | word read =>
    dsimp only at h
    split_ifs at h
    · cases h
      simp at hmode
    · exact .inr ⟨closeWord us read, rfl, h⟩
  | less =>
    dsimp only at h
    split_ifs at h
    cases h
    simp at hmode

theorem begin_eq_comment (h : begin us c = some ⟨ts, .comment⟩) : us = ts := by
  unfold begin at h
  split_ifs at h <;> simp_all

/-- The tokens in front of a comment have a text without it. -/
theorem exists_uncommented (h : scan ⟨[], .between⟩ text = some ⟨ts, .comment⟩) :
    ∃ text', scan ⟨[], .between⟩ text' = some ⟨ts, .between⟩ := by
  induction text using List.reverseRecOn with
  | nil => simp [scan] at h
  | append_singleton text c ih =>
    rw [scan_append] at h
    obtain ⟨s, hs, hc⟩ := Option.bind_eq_some_iff.mp h
    have hstep : step s c = some ⟨ts, .comment⟩ := by simpa [scan] using hc
    rcases begun_of_step hstep (.inl rfl) with ⟨rfl, -⟩ | ⟨us, hblank, hbegin⟩
    · exact ih hs
    · obtain rfl := begin_eq_comment hbegin
      refine ⟨text ++ [' '], ?_⟩
      rw [scan_append, hs]
      simpa [scan] using hblank

/-- Tokens of a text have a text that ends between tokens, so any other can be put behind it. -/
theorem exists_between {source : List Char} (h : lex source = .ok ts) :
    ∃ before, ∀ text, lex (before ++ text) = (lex text).map (ts ++ ·) := by
  suffices ∃ before, scan ⟨[], .between⟩ before = some ⟨ts.reverse, .between⟩ by
    obtain ⟨before, hb⟩ := this
    refine ⟨before, fun text => ?_⟩
    have hread : lex (before ++ text) = readFrom ⟨ts.reverse, .between⟩ text := readFrom_append hb
    rw [hread, readFrom_between, List.reverse_reverse]
  obtain ⟨s, hs, hfinish⟩ := exists_scan h
  by_cases hmode : s.mode = .comment
  · obtain ⟨us, mode⟩ := s
    cases hmode
    cases hfinish
    exact exists_uncommented (by simpa using hs)
  · refine ⟨source ++ [' '], ?_⟩
    have hstep : step s ' ' = some ⟨ts.reverse, .between⟩ :=
      step_of_finish (by decide) hfinish fun h => absurd h hmode
    rw [scan_append, hs]
    simpa [scan] using hstep

end Token

/-! ### Derivations -/

variable {e : Expr} {ts us r : List Token}

/-- More tokens may stand behind what a phrase leaves; only a name that stands last must not become
a call. -/
theorem Derives.append {p : Phrase} (h : Derives p ts r) (us : List Token)
    (hr : r = [] → us.head? ≠ some (.op '(')) : Derives p (ts ++ us) (r ++ us) := by
  induction h with
  | product _ ih => exact .product (ih hr)
  | add k hc _ _ ihl ihe => exact .add k hc (by simpa using ihl (by simp)) (ihe hr)
  | unary _ ih => exact .unary (ih hr)
  | multiply k hc _ _ ihl ihe => exact .multiply k hc (by simpa using ihl (by simp)) (ihe hr)
  | neg _ ih => exact .neg (ih hr)
  | primary _ ih => exact .primary (ih hr)
  | num x r => exact .num x _
  | int n r => exact .int n _
  | str s r => exact .str s _
  | paren j k _ ih =>
    have h := Derives.paren j k (by simpa using ih (by simp))
    simpa using h
  | @name r x hx =>
    refine .name x ?_
    cases r with
    | nil => exact hr rfl
    | cons t r => exact hx
  | callEmpty f k r =>
    have h := Derives.callEmpty f k (r ++ us)
    simpa using h
  | call f k _ ih =>
    have h := Derives.call f k (by simpa using ih (by simp))
    simpa using h
  | @last e ts r k _ ih =>
    refine .last k ?_
    have h := ih (fun hk => hr (List.append_eq_nil_iff.mp hk).2)
    simpa using h
  | more j k _ _ ih ihs => exact .more j k (by simpa using ih (by simp)) (ihs hr)

theorem IsStatement.append (h : IsStatement e ts r) (us : List Token)
    (hr : r = [] → us.head? ≠ some (.op '(')) : IsStatement e (ts ++ us) (r ++ us) := by
  cases h with
  | assign x k h =>
    have h := IsStatement.assign x k (h.append us hr)
    simpa using h
  | sum h => exact .sum (h.append us hr)

end GuestRuntime.Mini
