import GuestRuntime.Proofs.Mini.Constant

/-!
Expressions of whole numbers. The guest works them out in thirty-two bits, one operator at a time,
and what is out of range there becomes the missing number, -2147483648. The next operator reads that
as a number like any other:

        2147483647L + 1L          missing         NA
        2147483647L + 1L + 1L     missing + 1     -2147483647

The answer is the exact value or NA if what goes out of range first is the whole expression; if it
is a part of it, the answer need not be either of them. Main statement: `evaluate_integral`.
-/

namespace GuestRuntime.Mini

open Dialogue TheGuest Machine
open Token (maxInteger)

/-- What stands between two whole numbers. -/
inductive IntegerOp
  | sum
  | difference
  | product

def IntegerOp.sign : IntegerOp → Char
  | sum => '+'
  | difference => '-'
  | product => '*'

def IntegerOp.exact : IntegerOp → Int → Int → Int
  | sum, a, b => a + b
  | difference, a, b => a - b
  | product, a, b => a * b

/-- An expression of whole numbers, each of them in range. -/
inductive Integral
  | literal (n : Nat) (hn : n ≤ maxInteger)
  | binary (op : IntegerOp) (l r : Integral)

/-- The whole numbers that the guest has, the missing one apart. -/
def InRange (n : Int) : Prop := -2147483647 ≤ n ∧ n ≤ 2147483647

instance (n : Int) : Decidable (InRange n) := inferInstanceAs (Decidable (_ ∧ _))

namespace Integral

def toExpr : Integral → Expr
  | literal n _ => .int n
  | binary op l r => .binary op.sign l.toExpr r.toExpr

/-- The exact value. -/
def value : Integral → Int
  | literal n _ => n
  | binary op l r => op.exact l.value r.value

/-- The exact value of every part is in range. -/
def Fits : Integral → Prop
  | literal n _ => InRange n
  | binary op l r => l.Fits ∧ r.Fits ∧ InRange (op.exact l.value r.value)

/-- Every part fits, but for the whole. -/
def OperandsFit : Integral → Prop
  | literal _ _ => True
  | binary _ l r => l.Fits ∧ r.Fits

def decideFits : (a : Integral) → Decidable a.Fits
  | literal n _ => inferInstanceAs (Decidable (InRange n))
  | binary op l r =>
    have := decideFits l
    have := decideFits r
    inferInstanceAs (Decidable (l.Fits ∧ r.Fits ∧ InRange (op.exact l.value r.value)))

instance (a : Integral) : Decidable a.Fits := decideFits a

/-- The exact value as text, if every part fits. -/
def text (a : Integral) : String := if a.Fits then toString a.value else "NA"

/-- What the guest has after each of its steps. -/
def held : Integral → Int
  | literal n _ => n
  | binary op l r => checkedInteger (op.exact l.held r.held)

end Integral

variable {a l r : Integral} {n : Int} {s : MiniSession} {env : Option Obj}

/-! ### In the source and in the guest -/

theorem IntegerOp.sign_mem (op : IntegerOp) : op.sign ∈ ['+', '-', '*', '/'] := by
  cases op <;> decide

theorem integerOp_sign (op : IntegerOp) (a b : Int) :
    integerOp op.sign a b = checkedInteger (op.exact a b) := by
  cases op <;> rfl

theorem arithmetic_sign (op : IntegerOp) (a b : Int) :
    arithmetic op.sign (.ints [a]) (.ints [b]) = .ok (.ints [checkedInteger (op.exact a b)]) := by
  have hsign : op.sign ≠ '/' := by cases op <;> decide
  rw [← integerOp_sign]
  exact if_neg hsign

theorem Integral.denotes (a : Integral) : a.toExpr.Denotes (.ints [a.held]) := by
  induction a with
  | literal n hn => exact Expr.denotes_int n
  | binary op l r ihl ihr => exact .binary ihl ihr (arithmetic_sign op l.held r.held)

theorem Integral.isWritable (a : Integral) : a.toExpr.IsWritable := by
  induction a with
  | literal n hn => exact .int hn
  | binary op l r ihl ihr => exact .binary op.sign_mem ihl ihr

theorem Integral.isSendable (a : Integral) : a.toExpr.IsSendable := by
  induction a with
  | literal n hn => exact .int n
  | binary op l r ihl ihr => exact .binary ihl ihr

theorem Expr.IsWritable.exists_isWritten {e : Expr} (h : e.IsWritable) :
    ∃ text, IsWritten e text := by
  obtain ⟨ts, hw, hts⟩ := h.hasTokens
  obtain ⟨text, ht⟩ := hts.exists_spells
  exact ⟨text, ts, hw, ht⟩

/-! ### What the steps come to -/

theorem checkedInteger_of_inRange (h : InRange n) : checkedInteger n = n := by
  obtain ⟨hlow, hhigh⟩ := h
  exact if_pos ⟨by omega, by omega⟩

/-- Out of range is missing, also where thirty-two bits would be enough. -/
theorem checkedInteger_of_not_inRange (h : ¬ InRange n) : checkedInteger n = missingInteger := by
  rw [checkedInteger]
  split
  · simp only [InRange] at h
    simp only [missingInteger]
    omega
  · rfl

theorem Integral.Fits.inRange (h : a.Fits) : InRange a.value := by
  cases a with
  | literal n hn => exact h
  | binary op l r => exact h.2.2

theorem Integral.Fits.held_eq (h : a.Fits) : a.held = a.value := by
  induction a with
  | literal n hn => rfl
  | binary op l r ihl ihr =>
    obtain ⟨hl, hr, hrange⟩ := h
    rw [held, value, ihl hl, ihr hr, checkedInteger_of_inRange hrange]

/-- With operands that fit, what does not fit is missing. -/
theorem Integral.OperandsFit.fits_or_held (h : a.OperandsFit) :
    a.Fits ∨ a.held = missingInteger := by
  cases a with
  | literal n hn =>
    left
    simp only [Fits, InRange]
    simp only [maxInteger] at hn
    omega
  | binary op l r =>
    obtain ⟨hl, hr⟩ := h
    by_cases hrange : InRange (op.exact l.value r.value)
    · exact .inl ⟨hl, hr, hrange⟩
    · right
      rw [held, hl.held_eq, hr.held_eq, checkedInteger_of_not_inRange hrange]

/-! ### As text -/

/-- A number is written with digits, and perhaps a sign. -/
theorem mem_toString {c : Char} (h : c ∈ (toString n).toList) : c.isDigit ∨ c = '-' := by
  have hdigits {m : Nat} (hc : c ∈ m.repr.toList) : c.isDigit := by
    rw [Nat.toList_repr] at hc
    exact Nat.isDigit_of_mem_toDigits (by decide) (by decide) hc
  rw [Int.toString_eq_repr, Int.repr_eq_if] at h
  split at h
  · exact .inl (hdigits h)
  · rw [String.toList_append] at h
    rcases List.mem_append.mp h with h | h
    · exact .inr (by simpa using h)
    · exact .inl (hdigits h)

theorem toString_ne_missing (n : Int) : toString n ≠ "NA" := by
  intro h
  have hletter : 'N' ∈ (toString n).toList := by
    rw [h]
    decide
  exact absurd (mem_toString hletter) (by decide)

theorem integerText_of_inRange (h : InRange n) : integerText n = toString n := by
  obtain ⟨hlow, -⟩ := h
  refine if_neg ?_
  rw [missingInteger]
  omega

theorem integerText_eq_missing : integerText n = "NA" ↔ n = missingInteger := by
  constructor
  · intro h
    by_contra hn
    rw [integerText, if_neg hn] at h
    exact toString_ne_missing n h
  · intro h
    exact if_pos h

/-- The guest has the text if everything fits, and NA only as the missing number. -/
theorem Integral.integerText_held (a : Integral) :
    integerText a.held = a.text ↔ a.Fits ∨ a.held = missingInteger := by
  by_cases h : a.Fits
  · have htext : integerText a.held = a.text := by
      rw [text, if_pos h, h.held_eq, integerText_of_inRange h.inRange]
    simp [h, htext]
  · rw [text, if_neg h, integerText_eq_missing]
    simp [h]

/-- An expression of whole numbers can be written, and however it is written it is answered with
what the guest has after its last step. That is the exact value or NA, as it should be, if the
operands fit; if they do not, it is NA only as the missing number. -/
theorem evaluate_integral {g : TheGuest} {hd : Handle} (hs : s.lifecycle = .running g hd)
    (hl : s.world.memory.leaky = false) (henv : environment env = globalEnv) (a : Integral) :
    (∃ text, IsWritten a.toExpr text) ∧
      (∀ text, IsWritten a.toExpr text → ∃ s', s.evaluate (String.ofList text) env =
        (.ok (.ok (.text (integerText a.held))), s') ∧ Undisturbed s s') ∧
      (integerText a.held = a.text ↔ a.Fits ∨ a.held = missingInteger) ∧
      (a.OperandsFit → integerText a.held = a.text) := by
  refine ⟨a.isWritable.exists_isWritten, ?_, a.integerText_held, ?_⟩
  · intro text htext
    obtain ⟨x, s', heval, hkept⟩ := htext.evaluate a.isSendable a.denotes hs hl henv
    exact ⟨s', heval, hkept⟩
  · intro hfit
    exact a.integerText_held.mpr hfit.fits_or_held

/-- Two numbers in range, and their product below it. -/
def Integral.farBelow : Integral :=
  .binary .product (.binary .difference (.literal 1 (by decide)) (.literal 3 (by decide)))
    (.literal 2147483647 (by decide))

theorem evaluate_integral_farBelow : ∃ s',
    plainSession.evaluate "(1L - 3L) * 2147483647L" none = (.ok (.ok (.text "NA")), s') ∧
      Undisturbed plainSession s' := by
  have hw : Writes (.operand 0 Integral.farBelow.toExpr)
      [.op '(', .int 1, .op '-', .int 3, .op ')', .op '*', .int 2147483647] :=
    .binary (c := '*') (by decide) (by decide)
      (.paren 1 (.binary (c := '-') (by decide) (by decide) (.int 0 1) (.int 1 3))) (.int 2 _)
  have ht : Token.Spells [.op '(', .int 1, .op '-', .int 3, .op ')', .op '*', .int 2147483647]
      "(1L - 3L) * 2147483647L".toList :=
    .token (.op (by decide)) <|
    .token (w := ['1', 'L']) (isSpelled_int (n := 1) (by decide)) <|
    .blank (.inl rfl) <|
    .token (.op (by decide)) <|
    .blank (.inl rfl) <|
    .token (w := ['3', 'L']) (isSpelled_int (n := 3) (by decide)) <|
    .token (.op (by decide)) <|
    .blank (.inl rfl) <|
    .token (.op (by decide)) <|
    .blank (.inl rfl) <|
    .token (w := "2147483647L".toList) (isSpelled_int (n := 2147483647) (by decide)) <|
    .nil (by simp)
  have henv : environment none = globalEnv := rfl
  obtain ⟨-, heval, -, hfit⟩ :=
    evaluate_integral (s := plainSession) rfl rfl henv Integral.farBelow
  have htext : integerText Integral.farBelow.held = "NA" := hfit ⟨by decide, by decide⟩
  rw [htext] at heval
  exact heval _ ⟨_, hw, ht⟩

/-- One above the greatest number, and one more: the first is missing, and the second is made of the
number that stands for it. -/
def Integral.twoAbove : Integral :=
  .binary .sum (.binary .sum (.literal 2147483647 (by decide)) (.literal 1 (by decide)))
    (.literal 1 (by decide))

/-- What is made of the missing number is not missing. -/
theorem evaluate_twoAbove : parse "2147483647L + 1L + 1L".toList = .ok [Integral.twoAbove.toExpr] ∧
    Integral.twoAbove.text = "NA" ∧ ∃ s',
      plainSession.evaluate "2147483647L + 1L + 1L" none =
        (.ok (.ok (.text "-2147483647")), s') := by
  have hparse : parse "2147483647L + 1L + 1L".toList = .ok [Integral.twoAbove.toExpr] := rfl
  have hcode : Begins "2147483647L + 1L + 1L" Integral.twoAbove.toExpr := ⟨by decide, [], hparse⟩
  have henv : environment none = globalEnv := rfl
  obtain ⟨x, s', heval, -, -⟩ :=
    evaluate_of_denotes (s := plainSession) rfl rfl henv hcode Integral.twoAbove.denotes
  exact ⟨hparse, by decide, s', heval⟩

end GuestRuntime.Mini
