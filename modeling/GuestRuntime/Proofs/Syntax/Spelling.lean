import Mathlib.Data.List.Chain
import GuestRuntime.Mini.Token

/-!
Tokens as text. A token is spelled in one of its ways, with any blanks before it; what was spelled
is read back as the same tokens, whatever the ways were:

        x <- "a\"b"     blanks, word, blanks, <-, blanks, quote a \" b quote
        │
        ▼ lex
        x   <-   a"b

Numbers and words are read as far as they go, so two of them must not stand side by side. Main
statement: `lex_spells`.
-/

namespace GuestRuntime.Mini.Token

/-- What can stand between tokens without being one. -/
def IsBlank (c : Char) : Prop := c = ' ' ∨ c = '\t' ∨ c = '\r'

/-- What a string can stand between. -/
def IsQuote (q : Char) : Prop := q = '"' ∨ q = '\''

/-- A string as it stands between two quotes: a backslash before every backslash and every such
quote. -/
def escaped (q : Char) (s : List Char) : List Char :=
  s.flatMap fun c => if c = q ∨ c = '\\' then ['\\', c] else [c]

/-- A name: it begins as a word and goes on as one. -/
def IsName (x : String) : Prop :=
  ∃ c r, x.toList = c :: r ∧ beginsWord c ∧ ∀ d ∈ r, continuesWord d

/-- Digits and points, a digit first. -/
def IsNumeral (t : List Char) : Prop :=
  ∃ c r, t = c :: r ∧ c.isDigit ∧ ∀ d ∈ r, continuesNumber d

/-- How a token can be written. A number is written as any text that is read as it. -/
inductive IsSpelled : Token → List Char → Prop
  | num {x t} (ht : IsNumeral t) (hx : number? t = some x) : IsSpelled (.num x) t
  | int {n t} (hne : t ≠ []) (ht : ∀ c ∈ t, c.isDigit) (hn : digitsValue t = n)
      (hmax : n ≤ maxInteger) : IsSpelled (.int n) (t ++ ['L'])
  | str {q} (hq : IsQuote q) (s : String) : IsSpelled (.str s) (q :: (escaped q s.toList ++ [q]))
  | ident {x} (hx : IsName x) : IsSpelled (.ident x) x.toList
  | op {c} (hc : isOperator c) : IsSpelled (.op c) [c]
  | assign : IsSpelled .assign ['<', '-']

/-- Tokens as a text: any blanks before each of them and behind the last. -/
inductive Spells : List Token → List Char → Prop
  | nil {bs} (hbs : ∀ b ∈ bs, IsBlank b) : Spells [] bs
  | cons {t ts bs w text} (hbs : ∀ b ∈ bs, IsBlank b) (hw : IsSpelled t w) (h : Spells ts text) :
    Spells (t :: ts) (bs ++ (w ++ text))

/-- A token that is read as far as it goes. -/
def isGreedy : Token → Bool
  | num _ | int _ | ident _ => true
  | _ => false

/-- No two tokens that are read as far as they go stand side by side. -/
def Separate (ts : List Token) : Prop :=
  ts.IsChain fun a b => a.isGreedy = false ∨ b.isGreedy = false

variable {ts us : List Token} {t : Token} {c q : Char} {text w read : List Char} {s : Scan}

/-! ### Reading on from where reading stands -/

/-- The tokens of a text that is read from there. -/
def readFrom (s : Scan) (text : List Char) : Except Failure (List Token) :=
  match scan s text with
  | some s => finish s
  | none => .error .error

theorem readFrom_cons {s' : Scan} (h : step s c = some s') :
    readFrom s (c :: text) = readFrom s' text := by
  rw [readFrom, readFrom, scan, List.foldlM_cons, h]
  rfl

theorem readFrom_cons_none (h : step s c = none) : readFrom s (c :: text) = .error .error := by
  rw [readFrom, scan, List.foldlM_cons, h]
  rfl

theorem readFrom_append {s' : Scan} (h : scan s w = some s') :
    readFrom s (w ++ text) = readFrom s' text := by
  rw [readFrom, readFrom, scan_append, h]
  rfl

theorem step_blank (h : IsBlank c) : step ⟨ts, .between⟩ c = some ⟨ts, .between⟩ := if_pos h

theorem readFrom_blanks {bs : List Char} (hbs : ∀ b ∈ bs, IsBlank b) :
    readFrom ⟨ts, .between⟩ (bs ++ text) = readFrom ⟨ts, .between⟩ text := by
  induction bs with
  | nil => rfl
  | cons b bs ih =>
    have hb := hbs b List.mem_cons_self
    rw [List.cons_append, readFrom_cons (step_blank hb)]
    exact ih fun d hd => hbs d (List.mem_cons_of_mem _ hd)

/-! ### Strings -/

theorem unescape_of_quote_or_backslash (hq : IsQuote q) (h : c = q ∨ c = '\\') :
    unescape c = c := by
  rcases h with rfl | rfl
  · rcases hq with rfl | rfl <;> rfl
  · rfl

/-- A quote begins a string. -/
theorem readFrom_openQuote (hq : IsQuote q) :
    readFrom ⟨ts, .between⟩ (q :: text) = readFrom ⟨ts, .string q []⟩ text := by
  refine readFrom_cons ?_
  rcases hq with rfl | rfl <;> rfl

/-- The same quote ends it. -/
theorem readFrom_closeQuote : readFrom ⟨ts, .string q read⟩ (q :: text) =
    readFrom ⟨.str (String.ofList read.reverse) :: ts, .between⟩ text :=
  readFrom_cons (if_pos rfl)

theorem step_backslash (hq : '\\' ≠ q) :
    step ⟨ts, .string q read⟩ '\\' = some ⟨ts, .escape q read⟩ := by
  simp [step, hq]

/-- A backslash takes the character behind it. -/
theorem readFrom_backslash (hq : '\\' ≠ q) : readFrom ⟨ts, .string q read⟩ ('\\' :: c :: text) =
    readFrom ⟨ts, .string q (unescape c :: read)⟩ text := by
  have htake : step ⟨ts, .escape q read⟩ c = some ⟨ts, .string q (unescape c :: read)⟩ := rfl
  rw [readFrom_cons (step_backslash hq), readFrom_cons htake]

/-- Any other character is part of the string. -/
theorem readFrom_inString (hq : c ≠ q) (hb : c ≠ '\\') :
    readFrom ⟨ts, .string q read⟩ (c :: text) = readFrom ⟨ts, .string q (c :: read)⟩ text :=
  readFrom_cons (by simp [step, hq, hb])

/-- Between quotes, what was escaped is read back. -/
theorem readFrom_escaped (hq : IsQuote q) (s : List Char) :
    readFrom ⟨ts, .string q read⟩ (escaped q s ++ text) =
      readFrom ⟨ts, .string q (s.reverse ++ read)⟩ text := by
  have hq' : '\\' ≠ q := by rcases hq with rfl | rfl <;> decide
  induction s generalizing read with
  | nil => rfl
  | cons c s ih =>
    have hstep : readFrom ⟨ts, .string q read⟩ (escaped q (c :: s) ++ text) =
        readFrom ⟨ts, .string q (c :: read)⟩ (escaped q s ++ text) := by
      by_cases hc : c = q ∨ c = '\\'
      · simp only [escaped, List.flatMap_cons, if_pos hc, List.cons_append, List.nil_append]
        rw [readFrom_backslash hq', unescape_of_quote_or_backslash hq hc]
      · obtain ⟨hcq, hcb⟩ := not_or.mp hc
        simp only [escaped, List.flatMap_cons, if_neg hc, List.cons_append, List.nil_append]
        rw [readFrom_inString hcq hcb]
    rw [hstep, ih, List.reverse_cons, List.append_assoc]
    rfl

theorem readFrom_str (hq : IsQuote q) (x : String) :
    readFrom ⟨ts, .between⟩ (q :: (escaped q x.toList ++ [q]) ++ text) =
      readFrom ⟨.str x :: ts, .between⟩ text := by
  have hread : String.ofList (x.toList.reverse ++ []).reverse = x := by simp
  rw [List.cons_append, List.append_assoc, readFrom_openQuote hq, readFrom_escaped hq,
    List.singleton_append, readFrom_closeQuote, hread]

/-! ### Words and numbers -/

/-- The characters that are blank, or begin a token that is neither a word nor a number. -/
def marks : List Char :=
  [' ', '\t', '\r', '\n', ';', '#', '"', '\'', '<', '+', '-', '*', '/', '(', ')', ',']

/-- A text that continues neither a word nor a number. -/
def Bounded (text : List Char) : Prop := ∀ c ∈ text.head?, continuesWord c = false

theorem continuesWord_of_mem_marks : ∀ c ∈ marks, continuesWord c = false := by
  have hall : marks.all (!continuesWord ·) := by decide
  simpa only [List.all_eq_true, Bool.not_eq_true'] using hall

/-- Any other character begins a number or a word, if any token. -/
theorem begin_of_notMem_marks (h : c ∉ marks) :
    begin ts c =
      if c.isDigit then some ⟨ts, .number [c]⟩
      else if beginsWord c then some ⟨ts, .word [c]⟩
      else none := by
  simp only [marks, List.mem_cons, List.not_mem_nil, or_false, not_or] at h
  simp [begin, isOperator, h]

theorem step_digit (h : c.isDigit) : step ⟨ts, .between⟩ c = some ⟨ts, .number [c]⟩ := by
  have hmarks : marks.all (!Char.isDigit ·) := by decide
  have hc : c ∉ marks := fun hc => by simpa [h] using List.all_eq_true.mp hmarks c hc
  exact (begin_of_notMem_marks hc).trans (if_pos h)

theorem isDigit_iff : c.isDigit ↔ 48 ≤ c.toNat ∧ c.toNat ≤ 57 := by
  simp only [Char.isDigit, ge_iff_le, Bool.and_eq_true, decide_eq_true_eq, UInt32.le_iff_toNat_le]
  rfl

theorem beginsWord_of_isDigit (h : c.isDigit) : beginsWord c = false := by
  obtain ⟨hle, hge⟩ := isDigit_iff.mp h
  have hascii : c.toNat < 128 := by omega
  have hpoint : c ≠ '.' := by
    rintro rfl
    exact absurd hle (by decide)
  have hupper : c.isUpper = false := by
    refine decide_eq_false fun h => ?_
    have : 65 ≤ c.toNat := UInt32.le_iff_toNat_le.mp h.1
    omega
  have hlower : c.isLower = false := by
    refine Bool.and_eq_false_iff.mpr (.inl (decide_eq_false fun h => ?_))
    have : 97 ≤ c.toNat := UInt32.le_iff_toNat_le.mp h
    omega
  have halpha : c.isAlpha = false := by
    change (c.isUpper || c.isLower) = false
    rw [hupper, hlower]
    rfl
  simp [beginsWord, Text.isAlphabetic, hascii, hpoint, halpha]

theorem step_word (h : beginsWord c) : step ⟨ts, .between⟩ c = some ⟨ts, .word [c]⟩ := by
  have hmarks : marks.all (!beginsWord ·) := by decide
  have hc : c ∉ marks := fun hc => by simpa [h] using List.all_eq_true.mp hmarks c hc
  have hdigit : ¬ c.isDigit := fun hd => absurd h (by simp [beginsWord_of_isDigit hd])
  exact (begin_of_notMem_marks hc).trans ((if_neg hdigit).trans (if_pos h))

theorem continuesWord_of_continuesNumber (h : continuesNumber c) : continuesWord c := by
  rcases Bool.or_eq_true_iff.mp h with hd | hp
  · have hascii : c.toNat < 128 := by have := isDigit_iff.mp hd; omega
    simp [continuesWord, Text.isAlphanumeric, Text.isNumeric, hascii, hd]
  · simp [continuesWord, hp]

/-- What continues a word, or a number, is read as more of it. -/
theorem scan_more {mode : List Char → Mode} {p : Char → Bool}
    (hp : ∀ read c, p c → step ⟨ts, mode read⟩ c = some ⟨ts, mode (c :: read)⟩)
    (hw : ∀ c ∈ w, p c) : scan ⟨ts, mode read⟩ w = some ⟨ts, mode (w.reverse ++ read)⟩ := by
  induction w generalizing read with
  | nil => rfl
  | cons c w ih =>
    have hrest : scan ⟨ts, mode (c :: read)⟩ w = some ⟨ts, mode (w.reverse ++ (c :: read))⟩ :=
      ih fun d hd => hw d (List.mem_cons_of_mem _ hd)
    rw [scan, List.foldlM_cons, hp read c (hw c List.mem_cons_self), List.reverse_cons,
      List.append_assoc]
    exact hrest

theorem scan_word (hw : ∀ c ∈ w, continuesWord c) :
    scan ⟨ts, .word read⟩ w = some ⟨ts, .word (w.reverse ++ read)⟩ :=
  scan_more (fun _ _ hc => if_pos hc) hw

theorem scan_number (hw : ∀ c ∈ w, continuesNumber c) :
    scan ⟨ts, .number read⟩ w = some ⟨ts, .number (w.reverse ++ read)⟩ :=
  scan_more (fun _ _ hc => if_pos hc) hw

/-- Where the next character does the same, so does the rest of the text. -/
theorem readFrom_congr {s' : Scan} (hstep : ∀ c ∈ text.head?, step s c = step s' c)
    (hfinish : finish s = finish s') : readFrom s text = readFrom s' text := by
  cases text with
  | nil => exact hfinish
  | cons c text =>
    rw [readFrom, readFrom, scan, scan, List.foldlM_cons, List.foldlM_cons, hstep c rfl]

/-- A word ends where the text no longer continues it. -/
theorem readFrom_closeWord (h : Bounded text) :
    readFrom ⟨ts, .word read⟩ text = readFrom ⟨closeWord ts read, .between⟩ text := by
  refine readFrom_congr (fun c hc => ?_) rfl
  simp [step, h c hc]

/-- So does a number, at such a character. -/
theorem step_closeNumber (hc : continuesWord c = false) (hus : closeNumber ts read = some us) :
    step ⟨ts, .number read⟩ c = begin us c := by
  have hnumber : ¬ continuesNumber c := fun hn => by
    simp [continuesWord_of_continuesNumber hn] at hc
  have hL : c ≠ 'L' := by
    rintro rfl
    exact absurd hc (by decide)
  simp [step, hnumber, hL, hus]

/-! ### As far as it goes -/

/-- A comment is nothing, up to the end of its line. -/
theorem readFrom_comment (hw : ∀ d ∈ w, d != '\n') (h : ∀ d ∈ text.head?, (d != '\n') = false) :
    readFrom ⟨ts, .between⟩ ('#' :: (w ++ text)) = readFrom ⟨ts, .between⟩ text := by
  have hopen : step ⟨ts, .between⟩ '#' = some ⟨ts, .comment⟩ := rfl
  have hscan : scan ⟨ts, .comment⟩ w = some ⟨ts, .comment⟩ :=
    @scan_more ts w [] (fun _ => .comment) (· != '\n')
      (fun _ d hd => if_neg (by simpa using hd)) hw
  rw [readFrom_cons hopen, readFrom_append hscan]
  refine readFrom_congr (fun d hd => ?_) rfl
  rw [show d = '\n' by simpa using h d hd]
  rfl

theorem continuesWord_of_beginsWord (h : beginsWord c) : continuesWord c := by
  rcases Bool.or_eq_true_iff.mp h with ha | hp
  · simp [continuesWord, Text.isAlphanumeric, ha]
  · simp [continuesWord, hp]

theorem readFrom_word (hc : beginsWord c) (hw : ∀ d ∈ w, continuesWord d) (h : Bounded text) :
    readFrom ⟨ts, .between⟩ (c :: (w ++ text)) =
      readFrom ⟨.ident (String.ofList (c :: w)) :: ts, .between⟩ text := by
  have hclose : closeWord ts (w.reverse ++ [c]) = .ident (String.ofList (c :: w)) :: ts := by
    simp [closeWord]
  rw [readFrom_cons (step_word hc), readFrom_append (scan_word hw), readFrom_closeWord h, hclose]

/-- Digits and points with the mark of an integer behind them. -/
theorem readFrom_integer (hc : c.isDigit) (hw : ∀ d ∈ w, continuesNumber d) :
    readFrom ⟨ts, .between⟩ (c :: (w ++ 'L' :: text)) =
      match integer? (c :: w) with
      | some n => readFrom ⟨.int n :: ts, .between⟩ text
      | none => .error .error := by
  have hstep : step ⟨ts, .number (w.reverse ++ [c])⟩ 'L' =
      (integer? (c :: w)).map fun n => ⟨.int n :: ts, .between⟩ := by
    have hno : continuesNumber 'L' = false := by decide
    simp [step, hno]
  rw [readFrom_cons (step_digit hc), readFrom_append (scan_number hw)]
  cases hn : integer? (c :: w) with
  | none =>
    rw [hn] at hstep
    exact readFrom_cons_none hstep
  | some n =>
    rw [hn] at hstep
    exact readFrom_cons hstep

/-- Digits and points without that mark. -/
theorem readFrom_number (hc : c.isDigit) (hw : ∀ d ∈ w, continuesNumber d)
    (h : ∀ d ∈ text.head?, continuesNumber d = false) (hL : text.head? ≠ some 'L') :
    readFrom ⟨ts, .between⟩ (c :: (w ++ text)) =
      match number? (c :: w) with
      | some x => readFrom ⟨.num x :: ts, .between⟩ text
      | none => .error .error := by
  have hread : (w.reverse ++ [c]).reverse = c :: w := by simp
  have hno {d : Char} (hd : d ∈ text.head?) : d ≠ 'L' := by
    rintro rfl
    exact hL hd
  rw [readFrom_cons (step_digit hc), readFrom_append (scan_number hw)]
  cases hx : number? (c :: w) with
  | some x =>
    refine readFrom_congr (fun d hd => ?_) ?_
    · simp [step, h d hd, hno hd, closeNumber, hread, hx]
    · simp [finish, closeNumber, hread, hx]
  | none =>
    cases text with
    | nil => simp [readFrom, scan, finish, closeNumber, hread, hx]
    | cons d text =>
      refine readFrom_cons_none ?_
      simp [step, h d rfl, hno (d := d) rfl, closeNumber, hread, hx]

/-! ### The first character of a token -/

theorem step_operator (h : isOperator c) :
    step ⟨ts, .between⟩ c = some ⟨.op c :: ts, .between⟩ := by
  simp only [isOperator, List.contains_eq_mem, decide_eq_true_eq, List.mem_cons, List.not_mem_nil,
    or_false] at h
  rcases h with rfl | rfl | rfl | rfl | rfl | rfl | rfl <;> rfl

/-- An arrow needs its second character. -/
theorem readFrom_less (h : text.head? ≠ some '-') :
    readFrom ⟨ts, .between⟩ ('<' :: text) = .error .error := by
  have hopen : step ⟨ts, .between⟩ '<' = some ⟨ts, .less⟩ := rfl
  rw [readFrom_cons hopen]
  cases text with
  | nil => rfl
  | cons d text => exact readFrom_cons_none (if_neg (by simpa using h))

/-- Of what is done with each kind of token, what is done with the one that begins here. A character
that begins none is refused. -/
theorem begin_choice {α : Type} {P : α → Prop}
    {blank line comment string arrow operator number word other : α}
    (hblank : (∀ ts, step ⟨ts, .between⟩ c = some ⟨ts, .between⟩) → P blank)
    (hline : (∀ ts, step ⟨ts, .between⟩ c = some ⟨.newline :: ts, .between⟩) → P line)
    (hcomment : c = '#' → P comment) (hstring : IsQuote c → P string) (harrow : c = '<' → P arrow)
    (hoperator : isOperator c → P operator) (hnumber : c.isDigit → P number)
    (hword : beginsWord c → P word)
    (hother : (∀ ts, step ⟨ts, .between⟩ c = none) → P other) :
    P (if c = ' ' ∨ c = '\t' ∨ c = '\r' then blank
      else if c = '\n' ∨ c = ';' then line
      else if c = '#' then comment
      else if c = '"' ∨ c = '\'' then string
      else if c = '<' then arrow
      else if isOperator c then operator
      else if c.isDigit then number
      else if beginsWord c then word
      else other) := by
  split
  · next h => exact hblank fun ts => if_pos h
  next h₁ =>
  split
  · next h => exact hline fun ts => (if_neg h₁).trans (if_pos h)
  next h₂ =>
  split
  · next h => exact hcomment h
  next h₃ =>
  split
  · next h => exact hstring h
  next h₄ =>
  split
  · next h => exact harrow h
  next h₅ =>
  split
  · next h => exact hoperator h
  next h₆ =>
  split
  · next h => exact hnumber h
  next h₇ =>
  split
  · next h => exact hword h
  next h₈ =>
  refine hother fun ts => ?_
  simp only [step, begin, h₁, h₂, h₃, h₄, h₅, h₆, h₇, h₈, Bool.false_eq_true, if_false]

/-! ### Spelled tokens -/

theorem readFrom_ident {x : String} (hx : IsName x) (h : Bounded text) :
    readFrom ⟨ts, .between⟩ (x.toList ++ text) = readFrom ⟨.ident x :: ts, .between⟩ text := by
  obtain ⟨c, r, hcr, hc, hr⟩ := hx
  rw [hcr, List.cons_append, readFrom_word hc hr h, ← hcr, String.ofList_toList]

theorem readFrom_num {x : Double} (ht : IsNumeral w) (hx : number? w = some x) (h : Bounded text) :
    readFrom ⟨ts, .between⟩ (w ++ text) = readFrom ⟨.num x :: ts, .between⟩ text := by
  obtain ⟨c, r, rfl, hc, hr⟩ := ht
  have hend : ∀ d ∈ text.head?, continuesNumber d = false := fun d hd =>
    Bool.eq_false_iff.mpr fun hn =>
      absurd (continuesWord_of_continuesNumber hn) (by simp [h d hd])
  have hL : text.head? ≠ some 'L' := fun hL => absurd (h 'L' hL) (by decide)
  rw [List.cons_append, readFrom_number hc hr hend hL, hx]

theorem readFrom_int (hne : w ≠ []) (hw : ∀ c ∈ w, c.isDigit) (hmax : digitsValue w ≤ maxInteger) :
    readFrom ⟨ts, .between⟩ (w ++ ['L'] ++ text) =
      readFrom ⟨.int (digitsValue w) :: ts, .between⟩ text := by
  obtain ⟨c, r, rfl⟩ := List.exists_cons_of_ne_nil hne
  obtain ⟨hc, hr⟩ := List.forall_mem_cons.mp hw
  have hr : ∀ d ∈ r, continuesNumber d := fun d hd => by simp [continuesNumber, hr d hd]
  have hinteger : integer? (c :: r) = some (digitsValue (c :: r) : Int) :=
    if_pos ⟨List.all_eq_true.mpr hw, hmax⟩
  rw [List.append_assoc, List.cons_append, List.singleton_append, readFrom_integer hc hr, hinteger]

/-- A token is read as it was spelled; one that is read as far as it goes needs an end. -/
theorem readFrom_spelled (hw : IsSpelled t w) (h : t.isGreedy → Bounded text) :
    readFrom ⟨ts, .between⟩ (w ++ text) = readFrom ⟨t :: ts, .between⟩ text := by
  cases hw with
  | num ht hx => exact readFrom_num ht hx (h rfl)
  | int hne ht hn hmax =>
    subst hn
    exact readFrom_int hne ht (by exact_mod_cast hmax)
  | str hq x => exact readFrom_str hq x
  | ident hx => exact readFrom_ident hx (h rfl)
  | op hc => exact readFrom_cons (step_operator hc)
  | assign => rfl

theorem mem_marks_of_isBlank (h : IsBlank c) : c ∈ marks := by
  rcases h with rfl | rfl | rfl <;> decide

/-- What is not read as far as it goes begins with a mark. -/
theorem exists_mark (hw : IsSpelled t w) (ht : t.isGreedy = false) :
    ∃ c r, w = c :: r ∧ c ∈ marks := by
  have hops : ∀ c, isOperator c → c ∈ marks := by
    intro c hc
    simp only [isOperator, List.contains_eq_mem, decide_eq_true_eq] at hc
    exact List.mem_of_mem_drop (i := 9) hc
  cases hw with
  | num | int | ident => cases ht
  | str hq x => exact ⟨_, _, rfl, by rcases hq with rfl | rfl <;> decide⟩
  | op hc => exact ⟨_, _, rfl, hops _ hc⟩
  | assign => exact ⟨_, _, rfl, by decide⟩

/-- What was spelled ends the token before it, unless it begins with a token of that kind. -/
theorem Spells.bounded (h : Spells ts text) (hts : ∀ t ∈ ts.head?, t.isGreedy = false) :
    Bounded text := by
  have hmark {c : Char} {r : List Char} (hc : c ∈ marks) : Bounded (c :: r) := by
    rintro d ⟨⟩
    exact continuesWord_of_mem_marks c hc
  cases h with
  | nil hbs =>
    cases text with
    | nil => simp [Bounded]
    | cons b bs => exact hmark (mem_marks_of_isBlank (hbs b List.mem_cons_self))
  | @cons t ts bs w text hbs hw _ =>
    cases bs with
    | nil =>
      obtain ⟨c, r, rfl, hc⟩ := exists_mark hw (hts t rfl)
      exact hmark hc
    | cons b bs => exact hmark (mem_marks_of_isBlank (hbs b List.mem_cons_self))

theorem readFrom_spells (h : Spells ts text) (hts : Separate ts) :
    readFrom ⟨us, .between⟩ text = .ok (us.reverse ++ ts) := by
  induction h generalizing us with
  | @nil bs hbs =>
    rw [← List.append_nil bs, readFrom_blanks hbs, List.append_nil]
    rfl
  | @cons t ts bs w text hbs hw h ih =>
    obtain ⟨hnext, hts⟩ := List.isChain_cons.mp hts
    have hbounded : t.isGreedy → Bounded text := fun ht =>
      h.bounded fun u hu => (hnext u hu).resolve_left (by simp [ht])
    rw [readFrom_blanks hbs, readFrom_spelled hw hbounded, ih hts]
    simp

/-- Tokens that were spelled are read back, however they were spelled. -/
theorem lex_spells (h : Spells ts text) (hts : Separate ts) : lex text = .ok ts := by
  have hread : readFrom ⟨[], .between⟩ text = .ok ([].reverse ++ ts) := readFrom_spells h hts
  exact hread

end GuestRuntime.Mini.Token
