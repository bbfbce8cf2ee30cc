import GuestRuntime.Proofs.Syntax.Program
import GuestRuntime.Proofs.Syntax.Spelling

/-!
The shape of what is read. Names are words, and an assignment stands at the root of a statement and
nowhere else:

        text ──lex──▶ tokens, each name a word ──program──▶ operands, and  word <- operand

Main statement: `parse_isShaped`.
-/

namespace GuestRuntime.Mini

namespace Token

/-- A text of the characters that names are made of. -/
def IsWord (name : String) : Prop := ∀ c ∈ name.toList, continuesWord c

/-- Every name among these tokens is a word. -/
def Named (ts : List Token) : Prop := ∀ x, .ident x ∈ ts → IsWord x

theorem named_nil : Named [] := by simp [Named]

theorem Named.cons {t : Token} {ts : List Token} (h : Named ts) (ht : ∀ x, t ≠ .ident x) :
    Named (t :: ts) := by
  intro x hx
  rcases List.mem_cons.mp hx with hx | hx
  · exact absurd hx.symm (ht x)
  · exact h x hx

theorem Named.of_subset {ts us : List Token} (h : Named ts) (hus : us ⊆ ts) : Named us :=
  fun x hx => h x (hus hx)

/-- The names read are words, and so is what was read of one. -/
structure Scan.Worded (s : Scan) : Prop where
  tokens : Named s.tokens
  mode : ∀ read, s.mode = .word read → ∀ c ∈ read, continuesWord c

variable {ts : List Token} {c : Char} {s s' : Scan}

/-- Where reading stands in no word, only the tokens matter. -/
theorem worded_of_tokens {mode : Mode} (h : Named ts) (hm : ∀ read, mode ≠ .word read) :
    Scan.Worded ⟨ts, mode⟩ := ⟨h, fun read hr => absurd hr (hm read)⟩

theorem worded_begin (h : Named ts) (hs : begin ts c = some s) : s.Worded := by
  -- One case for each kind of first character; only the last begins a word.
  unfold begin at hs
  split at hs
  · cases hs
    exact worded_of_tokens h (by simp)
  split at hs
  · cases hs
    exact worded_of_tokens (h.cons (by simp)) (by simp)
  split at hs
  · cases hs
    exact worded_of_tokens h (by simp)
  split at hs
  · cases hs
    exact worded_of_tokens h (by simp)
  split at hs
  · cases hs
    exact worded_of_tokens h (by simp)
  split at hs
  · cases hs
    exact worded_of_tokens (h.cons (by simp)) (by simp)
  split at hs
  · cases hs
    exact worded_of_tokens h (by simp)
  split at hs
  · rename_i hc
    cases hs
    refine ⟨h, ?_⟩
    rintro read ⟨⟩ d hd
    rw [List.mem_singleton.mp hd]
    exact continuesWord_of_beginsWord hc
  · cases hs

/-- A word that ends becomes a name. -/
theorem named_closeWord {read : List Char} (h : Named ts) (hr : ∀ c ∈ read, continuesWord c) :
    Named (closeWord ts read) := by
  intro x hx
  rcases List.mem_cons.mp hx with hx | hx
  · obtain rfl := Token.ident.inj hx
    intro c hc
    exact hr c (by simpa using hc)
  · exact h x hx

theorem named_closeNumber {read : List Char} {us : List Token} (h : Named ts)
    (hus : closeNumber ts read = some us) : Named us := by
  obtain ⟨x, -, rfl⟩ := Option.map_eq_some_iff.mp hus
  exact h.cons (by simp)

theorem worded_step (h : s.Worded) (hs : step s c = some s') : s'.Worded := by
  obtain ⟨ts, mode⟩ := s
  obtain ⟨ht, hm⟩ := h
  cases mode with
  | between => exact worded_begin ht hs
  | comment =>
    simp only [step] at hs
    split at hs
    · exact worded_begin ht hs
    · cases hs
      exact worded_of_tokens ht (by simp)
  | string q read =>
    simp only [step] at hs
    split at hs
    · cases hs
      exact worded_of_tokens (ht.cons (by simp)) (by simp)
    · split at hs
      · cases hs
        exact worded_of_tokens ht (by simp)
      · cases hs
        exact worded_of_tokens ht (by simp)
  | escape q read =>
    cases hs
    exact worded_of_tokens ht (by simp)
  | number read =>
    simp only [step] at hs
    split at hs
    · cases hs
      exact worded_of_tokens ht (by simp)
    · split at hs
      · obtain ⟨n, -, rfl⟩ := Option.map_eq_some_iff.mp hs
        exact worded_of_tokens (ht.cons (by simp)) (by simp)
      · obtain ⟨us, hus, hs⟩ := Option.bind_eq_some_iff.mp hs
        exact worded_begin (named_closeNumber ht hus) hs
  | word read =>
    have hr := hm read rfl
    simp only [step] at hs
    split at hs
    · rename_i hc
      cases hs
      refine ⟨ht, ?_⟩
      rintro read' ⟨⟩ d hd
      rcases List.mem_cons.mp hd with rfl | hd
      · exact hc
      · exact hr d hd
    · exact worded_begin (named_closeWord ht hr) hs
  | less =>
    simp only [step] at hs
    split at hs
    · cases hs
      exact worded_of_tokens (ht.cons (by simp)) (by simp)
    · cases hs

theorem worded_scan {text : List Char} (h : s.Worded) (hs : scan s text = some s') :
    s'.Worded := by
  induction text generalizing s with
  | nil =>
    cases hs
    exact h
  | cons c text ih =>
    rw [scan, List.foldlM_cons] at hs
    obtain ⟨s₁, hs₁, hs⟩ := Option.bind_eq_some_iff.mp hs
    exact ih (worded_step h hs₁) hs

theorem named_finish (h : s.Worded) (hs : finish s = .ok ts) : Named ts := by
  obtain ⟨us, mode⟩ := s
  obtain ⟨ht, hm⟩ := h
  have hrev {vs : List Token} (hvs : Named vs) : Named vs.reverse := hvs.of_subset (by simp)
  cases mode with
  | between | comment =>
    cases hs
    exact hrev ht
  | string | escape | less => cases hs
  | number read =>
    simp only [finish] at hs
    split at hs
    · rename_i vs hvs
      cases hs
      exact hrev (named_closeNumber ht hvs)
    · cases hs
  | word read =>
    cases hs
    exact hrev (named_closeWord ht (hm read rfl))

/-- The names of a text are words. -/
theorem named_lex {text : List Char} (h : lex text = .ok ts) : Named ts := by
  unfold lex at h
  split at h
  · rename_i s hs
    exact named_finish (worded_scan (worded_of_tokens named_nil (by simp)) hs) h
  · cases h

end Token

open Token

/-- An expression that assigns nothing and whose names are words. -/
inductive Expr.IsOperand : Expr → Prop
  | num (x : Double) : IsOperand (.num x)
  | int (n : Int) : IsOperand (.int n)
  | str (s : String) : IsOperand (.str s)
  | lgl (b : Bool) : IsOperand (.lgl b)
  | null : IsOperand .null
  | ident {name} (h : IsWord name) : IsOperand (.ident name)
  | neg {e} (h : IsOperand e) : IsOperand (.neg e)
  | binary {l r} (op : Char) (hl : IsOperand l) (hr : IsOperand r) : IsOperand (.binary op l r)
  | call {name args} (h : IsWord name) (hargs : ∀ a ∈ args, IsOperand a) :
    IsOperand (.call name args)

/-- An operand, or the assignment of one. -/
inductive Expr.IsShaped : Expr → Prop
  | operand {e} (h : e.IsOperand) : IsShaped e
  | assign {rhs} (name : String) (h : rhs.IsOperand) : IsShaped (.assign name rhs)

/-- What is derived is an operand, or a list of them. -/
def Phrase.IsOperands : Phrase → Prop
  | .sum e | .product e | .unary e | .primary e => e.IsOperand
  | .arguments es => ∀ e ∈ es, e.IsOperand

theorem isOperand_ofName {x : String} (h : IsWord x) : (Expr.ofName x).IsOperand := by
  unfold Expr.ofName
  split
  · exact .lgl true
  split
  · exact .lgl false
  split
  · exact .null
  · exact .ident h

/-- No rule of the grammar for expressions makes an assignment. -/
theorem Derives.isOperands {p : Phrase} {ts r : List Token} (h : Derives p ts r) (hts : Named ts) :
    p.IsOperands ∧ Named r := by
  have tail {t : Token} {us : List Token} (hus : Named (t :: us)) : Named us :=
    hus.of_subset (List.subset_cons_self t us)
  have behind {k : Nat} {us : List Token} (hus : Named (newlines k ++ us)) : Named us :=
    hus.of_subset (List.subset_append_right _ us)
  induction h with
  | product _ ih | unary _ ih | primary _ ih => exact ih hts
  | add k _ _ _ ihl ihr | multiply k _ _ _ ihl ihr =>
    obtain ⟨hl, hus⟩ := ihl hts
    obtain ⟨hr, hrest⟩ := ihr (behind (tail hus))
    exact ⟨.binary _ hl hr, hrest⟩
  | neg _ ih =>
    obtain ⟨he, hrest⟩ := ih (tail hts)
    exact ⟨.neg he, hrest⟩
  | num x r => exact ⟨.num x, tail hts⟩
  | int n r => exact ⟨.int n, tail hts⟩
  | str s r => exact ⟨.str s, tail hts⟩
  | paren j k _ ih =>
    obtain ⟨he, hrest⟩ := ih (behind (tail hts))
    exact ⟨he, tail (behind hrest)⟩
  | name x _ => exact ⟨isOperand_ofName (hts x List.mem_cons_self), tail hts⟩
  | callEmpty f k r =>
    exact ⟨.call (hts f List.mem_cons_self) (by simp), tail (behind (tail (tail hts)))⟩
  | call f k _ ih =>
    obtain ⟨hes, hrest⟩ := ih (behind (tail (tail hts)))
    exact ⟨.call (hts f List.mem_cons_self) hes, tail hrest⟩
  | last k _ ih =>
    obtain ⟨he, hrest⟩ := ih hts
    exact ⟨by simpa [Phrase.IsOperands] using he, behind hrest⟩
  | more j k _ _ ih ihs =>
    obtain ⟨he, hus⟩ := ih hts
    obtain ⟨hes, hrest⟩ := ihs (behind (tail (behind hus)))
    exact ⟨List.forall_mem_cons.mpr ⟨he, hes⟩, hrest⟩

theorem IsStatement.isShaped {e : Expr} {ts r : List Token} (h : IsStatement e ts r)
    (hts : Named ts) : e.IsShaped ∧ Named r := by
  cases h with
  | @assign e us _ x k h =>
    have hus : us ⊆ .ident x :: .assign :: (newlines k ++ us) :=
      fun t ht => by simp [ht]
    obtain ⟨he, hr⟩ := h.isOperands (hts.of_subset hus)
    exact ⟨.assign x he, hr⟩
  | sum h =>
    obtain ⟨he, hr⟩ := h.isOperands hts
    exact ⟨.operand he, hr⟩

theorem AreStatements.areShaped {es : List Expr} {ts r : List Token} (h : AreStatements es ts r)
    (hts : Named ts) : ∀ e ∈ es, e.IsShaped := by
  induction h with
  | one h => simpa using (h.isShaped hts).1
  | more k h _ ih =>
    obtain ⟨he, hr⟩ := h.isShaped hts
    exact List.forall_mem_cons.mpr ⟨he, ih (hr.of_subset (List.subset_append_right _ _))⟩

theorem IsProgram.areShaped {es : List Expr} {ts : List Token} (h : IsProgram es ts)
    (hts : Named ts) : ∀ e ∈ es, e.IsShaped := by
  cases h with
  | none k => simp
  | some j k h => exact h.areShaped (hts.of_subset (List.subset_append_right _ _))

/-- Every expression that is read from a source text has this shape. -/
theorem parse_isShaped {source : List Char} {es : List Expr} (h : parse source = .ok es) :
    ∀ e ∈ es, e.IsShaped := by
  unfold parse at h
  split at h
  · rename_i ts hts
    exact IsProgram.areShaped (statements_sound h) (named_lex hts)
  · cases h

end GuestRuntime.Mini
