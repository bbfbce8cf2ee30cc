import GuestRuntime.Proofs.Syntax.Writing
import GuestRuntime.Proofs.Text.Sendable

/-!
What is written for a tree, and what can be sent of it. A text that was written for a tree is read
back as that tree alone, and it can be sent if every string in the tree can. A call is written as
its name and its arguments, with a comma and a space between them:

        paste0('a', "b")     paste0 ( 'a' , ␣ "b" )

Main statements: `IsWritten.parse_eq`, `IsWritten.isSendable` and `IsWritten.call`.
-/

namespace GuestRuntime.Mini

open Terminated Token

/-- The texts of a tree that is no assignment. -/
def IsWritten (e : Expr) (text : List Char) : Prop :=
  ∃ ts, Writes (.operand 0 e) ts ∧ Spells ts text

/-- No string in the tree has a zero. -/
inductive Expr.IsSendable : Expr → Prop
  | num (x : Double) : IsSendable (.num x)
  | int (n : Int) : IsSendable (.int n)
  | str {s : String} (hs : Terminated.IsSendable s) : IsSendable (.str s)
  | lgl (b : Bool) : IsSendable (.lgl b)
  | null : IsSendable .null
  | ident (x : String) : IsSendable (.ident x)
  | neg {e} (he : IsSendable e) : IsSendable (.neg e)
  | binary {c l e} (hl : IsSendable l) (he : IsSendable e) : IsSendable (.binary c l e)
  | call {f es} (hes : ∀ e ∈ es, IsSendable e) : IsSendable (.call f es)

/-- No string among the tokens has a zero. -/
def AreSendable (ts : List Token) : Prop := ∀ s, .str s ∈ ts → IsSendable s

/-- No string in what is written has a zero. -/
def Piece.IsSendable : Piece → Prop
  | .operand _ e => e.IsSendable
  | .arguments es => ∀ e ∈ es, e.IsSendable

variable {e : Expr} {es : List Expr} {ts us : List Token} {t : Token} {w text text' : List Char}

theorem IsWritten.parse_eq (h : IsWritten e text) : parse text = .ok [e] := by
  obtain ⟨ts, hw, ht⟩ := h
  rw [parse, lex_spells ht hw.separate]
  exact (isProgram_one (.sum hw.derives_sum)).isRead

/-! ### What can be sent -/

theorem areSendable_append (hts : AreSendable ts) (hus : AreSendable us) :
    AreSendable (ts ++ us) := by
  intro s hs
  rcases List.mem_append.mp hs with hs | hs
  · exact hts s hs
  · exact hus s hs

theorem areSendable_cons (ht : ∀ s, t ≠ .str s) (hts : AreSendable ts) :
    AreSendable (t :: ts) := by
  intro s hs
  rcases List.mem_cons.mp hs with hs | hs
  · exact absurd hs.symm (ht s)
  · exact hts s hs

theorem areSendable_singleton (ht : ∀ s, t ≠ .str s) : AreSendable [t] :=
  areSendable_cons ht (by simp [AreSendable])

/-- The tokens of a tree have the strings of the tree. -/
theorem Writes.areSendable {piece : Piece} (h : Writes piece ts) (hpiece : piece.IsSendable) :
    AreSendable ts := by
  induction h with
  | num | int | lgl | null | ident => exact areSendable_singleton (by simp)
  | str p s =>
    cases hpiece with
    | str hs =>
      intro t ht
      simp only [List.mem_singleton, Token.str.injEq] at ht
      exact ht ▸ hs
  | neg _ _ ih =>
    cases hpiece with
    | neg he => exact areSendable_cons (by simp) (ih he)
  | binary _ _ _ _ ihl ihe =>
    cases hpiece with
    | binary hl he => exact areSendable_append (ihl hl) (areSendable_cons (by simp) (ihe he))
  | call _ _ _ ih =>
    cases hpiece with
    | call hes =>
      refine areSendable_cons (by simp) (areSendable_cons (by simp) ?_)
      exact areSendable_append (ih hes) (areSendable_singleton (by simp))
  | paren _ _ ih =>
    refine areSendable_cons (by simp) ?_
    exact areSendable_append (ih hpiece) (areSendable_singleton (by simp))
  | none => simp [AreSendable]
  | one _ ih => exact ih (hpiece _ List.mem_cons_self)
  | more _ _ ihe ihs =>
    obtain ⟨he, hes⟩ := List.forall_mem_cons.mp hpiece
    exact areSendable_append (ihe he) (areSendable_cons (by simp) (ihs hes))

/-- Only a string is spelled with a zero, and only if it has one. -/
theorem zero_notMem_spelled (h : IsSpelled t w) (ht : AreSendable [t]) : '\x00' ∉ w := by
  intro hz
  cases h with
  | num hw _ =>
    obtain ⟨c, r, rfl, hc, hr⟩ := hw
    rcases List.mem_cons.mp hz with rfl | hz
    · simp at hc
    · exact absurd (hr _ hz) (by decide)
  | int _ hw _ _ =>
    rcases List.mem_append.mp hz with hz | hz
    · exact absurd (hw _ hz) (by decide)
    · simp at hz
  | @str q hq s =>
    have hs : '\x00' ∉ s.toList := ht s (by simp)
    have hq' : '\x00' ≠ q := by rcases hq with rfl | rfl <;> decide
    simp only [List.mem_cons, List.mem_append, List.not_mem_nil, or_false, hq', false_or] at hz
    obtain ⟨c, hc, hz⟩ := List.mem_flatMap.mp hz
    have hc' : '\x00' ≠ c := by
      rintro rfl
      exact hs hc
    split at hz
    · simp [hc'] at hz
    · simp [hc'] at hz
  | ident hx =>
    obtain ⟨c, r, hcr, hc, hr⟩ := hx
    rw [hcr] at hz
    rcases List.mem_cons.mp hz with rfl | hz
    · exact absurd hc (by decide)
    · exact absurd (hr _ hz) (by decide)
  | op hc =>
    rw [List.mem_singleton] at hz
    exact absurd (hz ▸ hc) (by decide)
  | assign => simp at hz

theorem Token.Spells.zero_notMem (h : Spells ts text) (hts : AreSendable ts) : '\x00' ∉ text := by
  have hblank {bs : List Char} (hbs : ∀ b ∈ bs, IsBlank b) : '\x00' ∉ bs := by
    intro hz
    rcases hbs _ hz with h | h | h <;> simp at h
  induction h with
  | nil hbs => exact hblank hbs
  | cons hbs hw _ ih =>
    simp only [List.mem_append, not_or]
    refine ⟨hblank hbs, zero_notMem_spelled hw ?_, ih ?_⟩
    · intro s hs
      exact hts s (by simp [List.mem_singleton.mp hs])
    · intro s hs
      exact hts s (List.mem_cons_of_mem _ hs)

theorem IsWritten.isSendable (h : IsWritten e text) (he : e.IsSendable) : '\x00' ∉ text := by
  obtain ⟨ts, hw, ht⟩ := h
  exact ht.zero_notMem (hw.areSendable he)

/-! ### Tokens in front of a text -/

theorem Token.Spells.blank {b : Char} (hb : IsBlank b) (h : Spells ts text) :
    Spells ts (b :: text) := by
  cases h with
  | nil hbs => exact .nil (List.forall_mem_cons.mpr ⟨hb, hbs⟩)
  | @cons t ts bs w text hbs hw h =>
    have hblanks : ∀ d ∈ b :: bs, IsBlank d := List.forall_mem_cons.mpr ⟨hb, hbs⟩
    exact .cons hblanks hw h

theorem Token.Spells.token (ht : IsSpelled t w) (h : Spells ts text) :
    Spells (t :: ts) (w ++ text) := by
  have hblanks : ∀ b ∈ [], IsBlank b := by simp
  exact .cons hblanks ht h

theorem Token.Spells.append (h : Spells ts text) (h' : Spells us text') :
    Spells (ts ++ us) (text ++ text') := by
  induction h with
  | @nil bs hbs =>
    induction bs with
    | nil => exact h'
    | cons b bs ih =>
      obtain ⟨hb, hbs⟩ := List.forall_mem_cons.mp hbs
      exact (ih hbs).blank hb
  | cons hbs hw _ ih =>
    simp only [List.cons_append, List.append_assoc]
    exact .cons hbs hw ih

/-! ### Literals -/

/-- A string between two quotes. -/
def literal (q : Char) (s : String) : List Char := q :: (escaped q s.toList ++ [q])

theorem isWritten_of_isSpelled (hw : ∀ p, Writes (.operand p e) [t]) (ht : IsSpelled t w) :
    IsWritten e w := by
  have hend : Spells [] [] := .nil (by simp)
  have ht : Spells [t] (w ++ []) := hend.token ht
  rw [List.append_nil] at ht
  exact ⟨[t], hw 0, ht⟩

theorem isWritten_literal {q : Char} (hq : IsQuote q) (s : String) :
    IsWritten (.str s) (literal q s) :=
  isWritten_of_isSpelled (.str · s) (.str hq s)

/-! ### Calls -/

/-- Texts in order, with a comma and a space between them. -/
def listText (texts : List (List Char)) : List Char := [',', ' '].intercalate texts

/-- A call of these arguments. -/
def callText (f : String) (texts : List (List Char)) : List Char :=
  f.toList ++ '(' :: (listText texts ++ [')'])

/-- Arguments that are written are written as a list of arguments. -/
theorem exists_writes_arguments {texts : List (List Char)} (h : List.Forall₂ IsWritten es texts) :
    ∃ ts, Writes (.arguments es) ts ∧ Spells ts (listText texts) := by
  induction h with
  | nil => exact ⟨[], .none, .nil (by simp [listText])⟩
  | @cons e text es texts he hes ih =>
    obtain ⟨ts, hw, ht⟩ := he
    cases hes with
    | nil => exact ⟨ts, .one hw, by simpa [listText] using ht⟩
    | cons =>
      obtain ⟨us, hws, hus⟩ := ih
      have hcomma : Spells (.op ',' :: us) ([','] ++ ' ' :: listText (_ :: _)) :=
        .token (.op (by decide)) (hus.blank (.inl rfl))
      exact ⟨_, .more hw hws, by simpa [listText] using ht.append hcomma⟩

theorem IsWritten.call {f : String} {texts : List (List Char)} (hf : IsName f)
    (h : List.Forall₂ IsWritten es texts) : IsWritten (.call f es) (callText f texts) := by
  obtain ⟨ts, hw, ht⟩ := exists_writes_arguments h
  refine ⟨_, .call 0 f hw, .token (.ident hf) ?_⟩
  have hclose : Spells [.op ')'] ([')'] ++ []) := .token (.op (by decide)) (.nil (by simp))
  exact .token (w := ['(']) (.op (by decide)) (ht.append hclose)

end GuestRuntime.Mini
