import GuestRuntime.Number.Decimal
import GuestRuntime.Proofs.Text.Sendable

/-!
What numbers are written with. The digits of a decimal are digits, positional notation adds a point
and zeros, and the guest's own text of a double a sign or the name of what is no number. Main
statement: `Double.isSendable_plainText`.
-/

namespace GuestRuntime

namespace Decimal

theorem isDigit_significant {n num den : Nat} :
    ∀ c ∈ (significant n num den).digits, c.isDigit := by
  intro c hc
  simp only [significant] at hc
  split at hc
  · exact Nat.isDigit_of_mem_toDigits (by decide) (by decide) hc
  · exact Nat.isDigit_of_mem_toDigits (by decide) (by decide) hc

theorem isDigit_ofScaled {n : Nat} {unit : Int} : ∀ c ∈ (ofScaled n unit).digits, c.isDigit := by
  intro c hc
  have hc : c ∈ (Nat.toDigits 10 n).reverse :=
    (List.dropWhile_sublist _).subset (List.mem_reverse.mp hc)
  exact Nat.isDigit_of_mem_toDigits (by decide) (by decide) (List.mem_reverse.mp hc)

theorem isDigit_search {x : Double} {e : Int} {n k : Nat} :
    ∀ c ∈ (search x e n k).digits, c.isDigit := by
  induction k generalizing n with
  | zero => exact isDigit_significant
  | succ k ih =>
    rw [search]
    split
    · exact isDigit_ofScaled
    · exact ih

theorem isDigit_zeros {k : Nat} : ∀ c ∈ zeros k, c.isDigit := by
  intro c hc
  rw [List.eq_of_mem_replicate hc]
  rfl

/-- Positional notation is made of digits and a point. -/
theorem mem_fixed {d : Decimal} (hd : ∀ c ∈ d.digits, c.isDigit) {c : Char} (hc : c ∈ d.fixed) :
    c.isDigit ∨ c = '.' := by
  unfold fixed at hc
  split at hc
  · simp only [List.cons_append, List.mem_cons, List.mem_append] at hc
    rcases hc with rfl | rfl | hc | hc
    · exact .inl rfl
    · exact .inr rfl
    · exact .inl (isDigit_zeros c hc)
    · exact .inl (hd c hc)
  · dsimp only at hc
    split at hc
    · rcases List.mem_append.mp hc with hc | hc
      · exact .inl (hd c hc)
      · exact .inl (isDigit_zeros c hc)
    · rcases List.mem_append.mp hc with hc | hc
      · exact .inl (hd c (List.mem_of_mem_take hc))
      · rcases List.mem_cons.mp hc with hc | hc
        · exact .inr hc
        · exact .inl (hd c (List.mem_of_mem_drop hc))

end Decimal

open Terminated

theorem Double.isSendable_plainText (x : Double) : IsSendable x.plainText := by
  unfold plainText IsSendable
  split
  · decide
  · have hfixed : '\x00' ∉ (Decimal.shortest x).fixed := by
      intro h
      rcases Decimal.mem_fixed Decimal.isDigit_search h with h | h
      · exact absurd h (by decide)
      · exact absurd h (by decide)
    have hbody : '\x00' ∉ if x.isInfinite then ['i', 'n', 'f'] else if x.isZero then ['0'] else
        (Decimal.shortest x).fixed := by
      split
      · decide
      split
      · decide
      · exact hfixed
    rw [String.toList_ofList]
    split
    · exact List.not_mem_cons_of_ne_of_not_mem (by decide) hbody
    · exact hbody

end GuestRuntime
