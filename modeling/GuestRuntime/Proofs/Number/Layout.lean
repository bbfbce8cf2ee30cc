import GuestRuntime.Proofs.Number.Digits
import GuestRuntime.Proofs.Number.Numeral

/-!
Decimals as text. Digits without a zero at either end stand in one of three places about the point,
and the zeros between them and the point are put in:

        exponent -3     0.00 ddd
        exponent 1      dd . d
        exponent 4      ddd 00

Scientific notation has the point behind the first of them. Either text denotes the decimal,
exactly. Main statement: `Decimal.IsTrimmed.notations`.
-/

namespace GuestRuntime

open Numeral

variable {n k : Nat} {c : Char} {l r w f : List Char}

/-! ### The digits of a number -/

theorem isDigits_toDigits (n : Nat) : IsDigits (Nat.toDigits 10 n) := by
  refine ⟨Nat.toDigits_ne_nil, ?_⟩
  intro d hd
  exact Nat.isDigit_of_mem_toDigits (by decide) (by decide) hd

theorem natural_toDigits (n : Nat) : natural (Nat.toDigits 10 n) = n :=
  Nat.ofDigitChars_ten_toDigits

/-- The digits of a number do not begin with a zero: what is behind it would be enough of them. -/
theorem head?_toDigits (hn : 0 < n) : (Nat.toDigits 10 n).head? ≠ some '0' := by
  intro h
  obtain ⟨r, hr⟩ := List.head?_eq_some_iff.mp h
  have hdigits : ∀ d ∈ r, d.isDigit := by
    intro d hd
    exact (isDigits_toDigits n).2 d (hr ▸ List.mem_cons_of_mem _ hd)
  have hvalue : natural r = n := by
    rw [← natural_toDigits n, hr, natural_zero_cons]
  have hlt := natural_lt hdigits
  rcases Nat.eq_zero_or_pos r.length with hlen | hlen
  · rw [hlen] at hlt
    omega
  · have hle : (Nat.toDigits 10 n).length ≤ r.length :=
      (Nat.length_toDigits_le_iff (by decide) hlen).mpr (hvalue ▸ hlt)
    rw [hr, List.length_cons] at hle
    omega

/-- Digits that do not begin with a zero, taken apart. -/
theorem exists_first (hl : IsDigits l) (hfirst : l.head? ≠ some '0') :
    ∃ c r, l = c :: r ∧ c.isDigit ∧ c ≠ '0' ∧ ∀ b ∈ r, b.isDigit := by
  obtain ⟨hne, hdigits⟩ := hl
  obtain ⟨c, r, rfl⟩ := List.exists_cons_of_ne_nil hne
  obtain ⟨hc, hr⟩ := List.forall_mem_cons.mp hdigits
  refine ⟨c, r, rfl, hc, ?_, hr⟩
  rintro rfl
  exact hfirst rfl

/-! ### The digits of a power -/

theorem isPower_twoDigits (n : Nat) : IsPower (Decimal.twoDigits n) := by
  unfold Decimal.twoDigits
  split
  · next hn =>
    rw [Nat.toDigits_of_lt_base hn]
    refine ⟨⟨by simp, ?_⟩, le_rfl, fun _ => rfl⟩
    simp [Nat.isDigit_digitChar, hn]
  · next hn =>
    refine ⟨isDigits_toDigits n, ?_, ?_⟩
    · refine Nat.lt_of_not_le ?_
      intro hle
      exact hn ((Nat.length_toDigits_le_iff (by decide) (by decide)).mp hle)
    · intro h
      exact absurd h (head?_toDigits (by omega))

theorem natural_twoDigits (n : Nat) : natural (Decimal.twoDigits n) = n := by
  unfold Decimal.twoDigits
  split
  · rw [natural_zero_cons, natural_toDigits]
  · exact natural_toDigits n

namespace Decimal

variable {d : Decimal}

theorem natural_zeros (k : Nat) : natural (zeros k) = 0 := by
  simp [natural, zeros, Nat.ofDigitChars_replicate_zero]

theorem length_zeros (k : Nat) : (zeros k).length = k := List.length_replicate

/-- The number that a decimal is. -/
def value (d : Decimal) : ℚ := natural d.digits * 10 ^ (d.exponent - ((d.digits.length : Int) - 1))

/-- Digits without a zero at either end. -/
structure IsTrimmed (d : Decimal) : Prop where
  digits : IsDigits d.digits
  first : d.digits.head? ≠ some '0'
  last : d.digits.getLast? ≠ some '0'

/-- The first digit stands where the exponent says. -/
theorem value_cons (h : d.digits = c :: r) : d.value = amount [c] r * 10 ^ d.exponent := by
  have hplace : d.exponent - (((c :: r).length : Int) - 1) = -(r.length : Int) + d.exponent := by
    rw [List.length_cons]
    omega
  rw [value, h, hplace, amount_eq, zpow_add₀ (by norm_num), mul_assoc]
  rfl

/-- The digits around the point in positional notation, with the zeros that are put in. -/
structure IsPlaced (d : Decimal) (w f : List Char) : Prop where
  whole : IsWhole w
  fraction : IsFraction f
  fixed_eq : d.fixed = pointed w f
  amount_eq_value : amount w f = d.value

/-- All digits behind the point. -/
theorem IsTrimmed.placed_behind (h : d.IsTrimmed) (hexp : d.exponent < 0) :
    d.IsPlaced ['0'] (zeros (-d.exponent - 1).toNat ++ d.digits) where
  whole := isWhole_digit rfl
  fraction := by
    refine ⟨?_, ?_⟩
    · intro c hc
      rcases List.mem_append.mp hc with hc | hc
      · exact isDigit_zeros c hc
      · exact h.digits.2 c hc
    · rw [List.getLast?_append_of_ne_nil _ h.digits.1]
      exact h.last
  fixed_eq := by
    rw [fixed, if_pos hexp, pointed, if_neg (by simp [h.digits.1])]
    rfl
  amount_eq_value := by
    have hlen : -((zeros (-d.exponent - 1).toNat ++ d.digits).length : Int) =
        d.exponent - ((d.digits.length : Int) - 1) := by
      rw [List.length_append, length_zeros]
      omega
    rw [amount_eq, hlen, value, List.singleton_append, natural_zero_cons, natural_append,
      natural_zeros, Nat.zero_mul, Nat.zero_add]

/-- All digits in front of the point. -/
theorem IsTrimmed.placed_before (h : d.IsTrimmed) (hexp : 0 ≤ d.exponent)
    (hlen : d.digits.length ≤ d.exponent.toNat + 1) :
    d.IsPlaced (d.digits ++ zeros (d.exponent.toNat + 1 - d.digits.length)) [] where
  whole := by
    refine isWhole_of_head? ⟨by simp [h.digits.1], ?_⟩ ?_
    · intro c hc
      rcases List.mem_append.mp hc with hc | hc
      · exact h.digits.2 c hc
      · exact isDigit_zeros c hc
    · rw [List.head?_append_of_ne_nil _ h.digits.1]
      exact h.first
  fraction := ⟨by simp, by simp⟩
  fixed_eq := by
    rw [fixed, if_neg (by omega)]
    simp only [if_pos hlen, pointed, if_true]
  amount_eq_value := by
    have hplaces : d.exponent - ((d.digits.length : Int) - 1) =
        (d.exponent.toNat + 1 - d.digits.length : Nat) := by
      omega
    rw [amount_eq, value, hplaces, natural_append, natural_append, natural_zeros, length_zeros,
      zpow_natCast]
    simp [natural]

/-- The point between two digits. -/
theorem IsTrimmed.placed_across (h : d.IsTrimmed) (hexp : 0 ≤ d.exponent)
    (hlen : d.exponent.toNat + 1 < d.digits.length) :
    d.IsPlaced (d.digits.take (d.exponent.toNat + 1)) (d.digits.drop (d.exponent.toNat + 1)) where
  whole := by
    refine isWhole_of_head? ⟨by simp [h.digits.1], ?_⟩ ?_
    · intro c hc
      exact h.digits.2 c (List.mem_of_mem_take hc)
    · rw [List.head?_take, if_neg (Nat.succ_ne_zero _)]
      exact h.first
  fraction := by
    refine ⟨?_, ?_⟩
    · intro c hc
      exact h.digits.2 c (List.mem_of_mem_drop hc)
    · rw [List.getLast?_drop, if_neg (by omega)]
      exact h.last
  fixed_eq := by
    rw [fixed, if_neg (by omega)]
    have hbehind : d.digits.drop (d.exponent.toNat + 1) ≠ [] := by
      rw [Ne, List.drop_eq_nil_iff]
      omega
    simp only [if_neg (Nat.not_le_of_lt hlen), pointed, if_neg hbehind]
  amount_eq_value := by
    have hplaces : -((d.digits.drop (d.exponent.toNat + 1)).length : Int) =
        d.exponent - ((d.digits.length : Int) - 1) := by
      rw [List.length_drop]
      omega
    rw [amount_eq, List.take_append_drop, hplaces, value]

theorem IsTrimmed.exists_placed (h : d.IsTrimmed) : ∃ w f, d.IsPlaced w f := by
  rcases Int.lt_or_le d.exponent 0 with hexp | hexp
  · exact ⟨_, _, h.placed_behind hexp⟩
  rcases Nat.lt_or_ge (d.exponent.toNat + 1) d.digits.length with hlen | hlen
  · exact ⟨_, _, h.placed_across hexp hlen⟩
  · exact ⟨_, _, h.placed_before hexp hlen⟩

/-- The sign before a power. -/
def sign (e : Int) : Char := if e < 0 then '-' else '+'

theorem sign_cases (e : Int) :
    sign e = '+' ∨ sign e = '-' ∧ natural (twoDigits e.natAbs) ≠ 0 := by
  rw [natural_twoDigits, sign]
  split
  · exact .inr ⟨rfl, by omega⟩
  · exact .inl rfl

theorem power_sign (e : Int) : power (sign e) (twoDigits e.natAbs) = e := by
  rw [power, natural_twoDigits, sign]
  by_cases hneg : e < 0
  · rw [if_pos hneg, if_pos rfl]
    omega
  · rw [if_neg hneg, if_neg (by decide)]
    omega

theorem scientific_eq_pointed (h : d.digits = c :: r) :
    d.scientific = pointed [c] r ++ 'e' :: sign d.exponent :: twoDigits d.exponent.natAbs := by
  rw [scientific, h, pointed]
  cases r <;> simp [sign]

theorem IsTrimmed.scientific_value (h : d.IsTrimmed) :
    IsScientific d.scientific ∧ value? d.scientific = some d.value := by
  obtain ⟨c, r, hcr, hc, hne, hr⟩ := exists_first h.digits h.first
  have hf : IsFraction r := by
    refine ⟨hr, ?_⟩
    cases r with
    | nil => simp
    | cons b r =>
      have hlast := h.last
      rw [hcr, List.getLast?_cons_cons] at hlast
      exact hlast
  have hp := isPower_twoDigits d.exponent.natAbs
  have hs := sign_cases d.exponent
  rw [scientific_eq_pointed hcr]
  refine ⟨.mk hc hne hf hp hs, ?_⟩
  rw [value?_powered (isWhole_digit hc).digits hr hp.digits (hs.imp_right And.left), power_sign,
    value_cons hcr]

/-- Both texts of a decimal without zeros at its ends denote it. -/
theorem IsTrimmed.notations (h : d.IsTrimmed) : Notations d.value d.fixed d.scientific := by
  obtain ⟨w, f, hw, hf, hfixed, hamount⟩ := h.exists_placed
  obtain ⟨hscientific, hvalue⟩ := h.scientific_value
  rw [hfixed]
  refine ⟨.mk hw hf, hscientific, ?_, hvalue⟩
  rw [value?_pointed hw.digits hf.digits, hamount]

end Decimal
end GuestRuntime
