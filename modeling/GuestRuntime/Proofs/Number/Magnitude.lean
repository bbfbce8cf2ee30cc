import Mathlib.Algebra.Order.Field.Power
import Mathlib.Data.List.TakeWhile
import Mathlib.Data.Rat.Cast.Order
import Mathlib.Tactic.FieldSimp
import Mathlib.Tactic.Linarith
import Mathlib.Tactic.NormNum
import Mathlib.Tactic.Positivity
import Mathlib.Tactic.Ring
import GuestRuntime.Number.Decimal

/-!
How large a number is, in decimal. The first digit of a positive fraction is not zero and stands
where the exponent says,

        10 ^ e ≤ num / den < 10 ^ (e + 1)

so significant digits are as many as they are asked for, and something is left of them when the
zeros at their end are not written. Main statements: `decimalExponent_spec`,
`Decimal.exists_significant` and `Double.significant_bounds`.
-/

namespace GuestRuntime

variable {num den n k c : Nat} {e : Int}

theorem pow10_eq (n : Nat) : pow10 n = 10 ^ n := rfl

theorem pow2_eq (n : Nat) : pow2 n = 2 ^ n := rfl

theorem pow10_pos (n : Nat) : 0 < pow10 n := Nat.pow_pos (by decide)

theorem decimalLength_pos (n : Nat) : 0 < decimalLength n := Nat.length_toDigits_pos

theorem lt_pow_decimalLength (n : Nat) : n < 10 ^ decimalLength n :=
  (Nat.length_toDigits_le_iff (by decide) (decimalLength_pos n)).mp le_rfl

theorem pow_decimalLength_le (hn : 0 < n) : 10 ^ (decimalLength n - 1) ≤ n := by
  rcases Nat.eq_zero_or_pos (decimalLength n - 1) with h | h
  · rw [h]
    exact hn
  · refine Nat.le_of_not_lt fun hlt => ?_
    have hle : decimalLength n ≤ decimalLength n - 1 :=
      (Nat.length_toDigits_le_iff (by decide) h).mpr hlt
    omega

theorem exists_decimalLength (hn : 0 < n) :
    ∃ l, decimalLength n = l + 1 ∧ 10 ^ l ≤ n ∧ n < 10 ^ (l + 1) := by
  have hlow := pow_decimalLength_le hn
  have hhigh := lt_pow_decimalLength n
  obtain ⟨l, hl⟩ := Nat.exists_eq_succ_of_ne_zero (decimalLength_pos n).ne'
  rw [hl] at hlow hhigh
  exact ⟨l, hl, hlow, hhigh⟩

/-- A fraction of one at least has as many digits before its point as the quotient. -/
theorem decimalExponent_of_le (hden : 0 < den) (hle : den ≤ num) :
    ∃ l : Nat, decimalExponent num den = l ∧ 10 ^ l * den ≤ num ∧ num < 10 ^ (l + 1) * den := by
  obtain ⟨l, hl, hlow, hhigh⟩ := exists_decimalLength (Nat.div_pos hle hden)
  refine ⟨l, ?_, (Nat.le_div_iff_mul_le hden).mp hlow, (Nat.div_lt_iff_lt_mul hden).mp hhigh⟩
  rw [decimalExponent, if_pos hle, hl]
  omega

/-- A fraction below one has as many zeros as the quotient the other way has digits, but for a power
of ten, which has one less. -/
theorem decimalExponent_of_lt (hnum : 0 < num) (hlt : num < den) :
    ∃ l : Nat, decimalExponent num den = -l ∧ num * 10 ^ l = den ∨
      decimalExponent num den = -(l + 1) ∧ num * 10 ^ l < den ∧ den < num * 10 ^ (l + 1) := by
  obtain ⟨l, hl, hlow, hhigh⟩ := exists_decimalLength (Nat.div_pos hlt.le hnum)
  have hlow : num * 10 ^ l ≤ den := Nat.mul_comm _ _ ▸ (Nat.le_div_iff_mul_le hnum).mp hlow
  have hhigh : den < num * 10 ^ (l + 1) :=
    Nat.mul_comm _ _ ▸ (Nat.div_lt_iff_lt_mul hnum).mp hhigh
  have hpow : pow10 (l + 1 - 1) = 10 ^ l := rfl
  rw [decimalExponent, if_neg hlt.not_ge]
  simp only [hl, hpow]
  refine ⟨l, ?_⟩
  split
  · next heq => exact .inl ⟨by omega, heq⟩
  · next hne => exact .inr ⟨by omega, lt_of_le_of_ne hlow hne, hhigh⟩

/-- The exponent of a positive fraction says where its first digit stands. -/
theorem decimalExponent_spec (hnum : 0 < num) (hden : 0 < den) :
    (10 : ℚ) ^ decimalExponent num den ≤ num / den ∧
      (num : ℚ) / den < 10 ^ (decimalExponent num den + 1) := by
  have hn : (0 : ℚ) < num := by exact_mod_cast hnum
  have hd : (0 : ℚ) < den := by exact_mod_cast hden
  have hten : (10 : ℚ) ≠ 0 := by norm_num
  rw [le_div_iff₀ hd, div_lt_iff₀ hd]
  by_cases hle : den ≤ num
  · obtain ⟨l, he, hlow, hhigh⟩ := decimalExponent_of_le hden hle
    rw [he]
    exact ⟨by exact_mod_cast hlow, by exact_mod_cast hhigh⟩
  obtain ⟨l, ⟨he, heq⟩ | ⟨he, hlow, hhigh⟩⟩ :=
    decimalExponent_of_lt hnum (Nat.lt_of_not_le hle)
  · have heq : (num : ℚ) * 10 ^ l = den := by exact_mod_cast heq
    rw [he, zpow_add_one₀ hten, zpow_neg, zpow_natCast, ← heq]
    field_simp
    exact ⟨le_rfl, by norm_num⟩
  · have hlow : (num : ℚ) * 10 ^ l < den := by exact_mod_cast hlow
    have hhigh : (den : ℚ) < num * 10 ^ (l + 1) := by exact_mod_cast hhigh
    have hexp : -((l : Int) + 1) = -((l + 1 : Nat) : Int) := by omega
    have hnext : -((l : Int) + 1) + 1 = -(l : Int) := by omega
    rw [he, hnext, hexp, zpow_neg, zpow_neg, zpow_natCast, zpow_natCast]
    constructor
    · rw [inv_mul_le_iff₀ (by positivity), mul_comm]
      exact hhigh.le
    · rw [lt_inv_mul_iff₀ (by positivity), mul_comm]
      exact hlow

/-- What is scaled by a power of ten is divided by it. -/
theorem scaleTen_eq (hden : 0 < den) (e : Int) :
    ((scaleTen num den e).1 : ℚ) / (scaleTen num den e).2 = num / den / 10 ^ e := by
  have hd : (den : ℚ) ≠ 0 := by exact_mod_cast hden.ne'
  unfold scaleTen
  split
  · next h =>
    obtain ⟨k, rfl⟩ := Int.eq_ofNat_of_zero_le h
    simp only [Int.toNat_natCast, pow10_eq, Nat.cast_mul, Nat.cast_pow, Nat.cast_ofNat,
      zpow_natCast]
    rw [div_div]
  · next h =>
    obtain ⟨k, hk⟩ := Int.eq_ofNat_of_zero_le (show 0 ≤ -e by omega)
    obtain rfl : e = -(k : Int) := by omega
    simp only [neg_neg, Int.toNat_natCast, pow10_eq, Nat.cast_mul, Nat.cast_pow, Nat.cast_ofNat,
      zpow_neg, zpow_natCast]
    field_simp

theorem scaleTen_pos (hden : 0 < den) (e : Int) : 0 < (scaleTen num den e).2 := by
  unfold scaleTen
  split
  · exact Nat.mul_pos hden (pow10_pos _)
  · exact hden

/-- A fraction scaled to `n` significant digits has so many before its point. -/
theorem scaleTen_bounds (hnum : 0 < num) (hden : 0 < den) (n : Nat) :
    let s := scaleTen num den (decimalExponent num den - n)
    10 ^ n * s.2 ≤ s.1 ∧ s.1 < 10 ^ (n + 1) * s.2 := by
  intro s
  obtain ⟨hlow, hhigh⟩ := decimalExponent_spec hnum hden
  have hs : (0 : ℚ) < s.2 := by exact_mod_cast scaleTen_pos hden _
  have heq : (s.1 : ℚ) / s.2 = num / den / 10 ^ (decimalExponent num den - n) :=
    scaleTen_eq hden _
  have hp : (0 : ℚ) < 10 ^ (decimalExponent num den - n) := by positivity
  have h₁ : (10 : ℚ) ^ n ≤ s.1 / s.2 := by
    rw [heq, le_div_iff₀ hp, ← zpow_natCast, ← zpow_add₀ (by norm_num)]
    simpa using hlow
  have h₂ : (s.1 : ℚ) / s.2 < 10 ^ (n + 1) := by
    have he : ((n + 1 : Nat) : Int) + (decimalExponent num den - n) =
        decimalExponent num den + 1 := by omega
    rw [heq, div_lt_iff₀ hp, ← zpow_natCast, ← zpow_add₀ (by norm_num), he]
    exact hhigh
  rw [le_div_iff₀ hs] at h₁
  rw [div_lt_iff₀ hs] at h₂
  exact ⟨by exact_mod_cast h₁, by exact_mod_cast h₂⟩

/-- Rounding leaves what lies between two whole numbers between them. -/
theorem roundHalfEven_bounds (hden : 0 < den) (hlow : k * den ≤ num) (hhigh : num < c * den) :
    k ≤ roundHalfEven num den ∧ roundHalfEven num den ≤ c := by
  have h₁ : k ≤ num / den := (Nat.le_div_iff_mul_le hden).mpr hlow
  have h₂ : num / den < c := (Nat.div_lt_iff_lt_mul hden).mpr hhigh
  unfold roundHalfEven
  dsimp only
  split
  · omega
  split
  · omega
  split <;> omega

namespace Decimal

/-- `n` significant digits are a number of so many digits: the fraction, scaled and rounded. -/
theorem exists_significant (hnum : 0 < num) (hden : 0 < den) (n : Nat) :
    let s := scaleTen num den (decimalExponent num den - n)
    let d := significant (n + 1) num den
    ∃ c, 10 ^ n ≤ c ∧ c < 10 ^ (n + 1) ∧ d.digits = Nat.toDigits 10 c ∧
      (d.exponent = decimalExponent num den ∨ d.exponent = decimalExponent num den + 1) ∧
      (c : ℚ) * 10 ^ (d.exponent - n) =
        roundHalfEven s.1 s.2 * 10 ^ (decimalExponent num den - n) := by
  intro s d
  obtain ⟨hlow, hhigh⟩ := scaleTen_bounds hnum hden n
  obtain ⟨h₁, h₂⟩ := roundHalfEven_bounds (scaleTen_pos hden _) hlow hhigh
  have he : decimalExponent num den - (((n + 1 : Nat) : Int) - 1) =
      decimalExponent num den - n := by
    omega
  simp only [d, s, significant, he]
  split
  · next heq =>
    refine ⟨10 ^ n, le_rfl, ?_, rfl, .inr rfl, ?_⟩
    · exact Nat.pow_lt_pow_right (by decide) (Nat.lt_succ_self n)
    · have hnext : decimalExponent num den + 1 - n = decimalExponent num den - n + 1 := by omega
      rw [hnext, zpow_add_one₀ (by norm_num), heq, pow10_eq]
      push_cast
      ring
  · next hne => exact ⟨_, h₁, Nat.lt_of_le_of_ne h₂ hne, rfl, .inl rfl, rfl⟩

theorem stripZeros_eq_nil {l : List Char} (h : stripZeros l = []) : ∀ d ∈ l, d = '0' := by
  intro d hd
  have := List.dropWhile_eq_nil_iff.mp (List.reverse_eq_nil_iff.mp h) d (List.mem_reverse.mpr hd)
  simpa using this

/-- A positive number has a digit that is not a zero. -/
theorem stripZeros_toDigits_ne_nil (hc : 0 < c) : stripZeros (Nat.toDigits 10 c) ≠ [] := by
  intro h
  have hzeros : Nat.toDigits 10 c = List.replicate (Nat.toDigits 10 c).length '0' :=
    List.eq_replicate_of_mem (stripZeros_eq_nil h)
  have hvalue : ∀ k, Nat.ofDigitChars 10 (List.replicate k '0') 0 = 0 := by
    intro k
    induction k with
    | zero => rfl
    | succ k ih => exact ih
  have hc' : c = 0 := by
    rw [← Nat.ofDigitChars_ten_toDigits (n := c), hzeros, hvalue]
  omega

theorem length_stripZeros_le (l : List Char) : (stripZeros l).length ≤ l.length := by
  have hdrop : (l.reverse.dropWhile (· == '0')).length ≤ l.reverse.length :=
    (List.dropWhile_sublist _).length_le
  rw [stripZeros, List.length_reverse]
  exact hdrop.trans (Nat.le_of_eq List.length_reverse)

end Decimal

/-- The exponent of a fraction is less than the lengths of its two parts. -/
theorem abs_decimalExponent_le (hnum : 0 < num) (hden : 0 < den) (hn : num < 10 ^ k)
    (hd : den < 10 ^ k) : |decimalExponent num den| ≤ k := by
  obtain ⟨hlow, hhigh⟩ := decimalExponent_spec hnum hden
  have hn₁ : (1 : ℚ) ≤ num := by exact_mod_cast hnum
  have hd₁ : (1 : ℚ) ≤ den := by exact_mod_cast hden
  have hnk : (num : ℚ) < 10 ^ (k : Int) := by
    rw [zpow_natCast]
    exact_mod_cast hn
  have hdk : (den : ℚ) < 10 ^ (k : Int) := by
    rw [zpow_natCast]
    exact_mod_cast hd
  have h₁ : decimalExponent num den < k := by
    refine (zpow_lt_zpow_iff_right₀ (by norm_num : (1 : ℚ) < 10)).mp (lt_of_le_of_lt hlow ?_)
    exact lt_of_le_of_lt (div_le_self (by linarith) hd₁) hnk
  have h₂ : -(k : Int) < decimalExponent num den + 1 := by
    refine (zpow_lt_zpow_iff_right₀ (by norm_num : (1 : ℚ) < 10)).mp (lt_of_le_of_lt ?_ hhigh)
    rw [zpow_neg, inv_eq_one_div]
    exact div_le_div₀ (by linarith) hn₁ (by linarith) hdk.le
  rw [abs_le]
  omega

namespace Double

variable {x : Double}

theorem mantissa_pos (hx : x.isZero = false) : 0 < x.mantissa := by
  unfold mantissa
  split
  · next hb =>
    refine Nat.pos_of_ne_zero fun ht => ?_
    rw [isZero, hb, ht] at hx
    cases hx
  · exact Nat.add_pos_left (Nat.pow_pos (by decide)) _

theorem mantissa_lt (x : Double) : x.mantissa < 2 ^ 53 := by
  have ht : x.trailing < 2 ^ 52 := Nat.mod_lt _ (Nat.pow_pos (by decide))
  unfold mantissa
  split
  · omega
  · rw [pow2_eq]
    omega

theorem scale_bounds (x : Double) : -1074 ≤ x.scale ∧ x.scale ≤ 972 := by
  have hb : x.biased < 2048 := Nat.mod_lt _ (by decide)
  unfold scale
  omega

/-- The two parts of a magnitude are not zero, and have less than 1075 digits. -/
theorem fraction_bounds (hx : x.isZero = false) (hk : 1074 ≤ k) :
    (0 < x.fraction.1 ∧ x.fraction.1 < 10 ^ k) ∧ 0 < x.fraction.2 ∧ x.fraction.2 < 10 ^ k := by
  obtain ⟨hlow, hhigh⟩ := x.scale_bounds
  have hm := x.mantissa_lt
  have hbase : 2 ^ k < 10 ^ k := Nat.pow_lt_pow_left (by decide) (by omega)
  unfold fraction
  split
  · have hpow : 2 ^ 53 * 2 ^ x.scale.toNat ≤ 2 ^ k := by
      rw [← Nat.pow_add]
      exact Nat.pow_le_pow_right (by decide) (by omega)
    have hlt : x.mantissa * 2 ^ x.scale.toNat < 2 ^ 53 * 2 ^ x.scale.toNat :=
      Nat.mul_lt_mul_of_pos_right hm (Nat.pow_pos (by decide))
    exact ⟨⟨Nat.mul_pos (mantissa_pos hx) (Nat.pow_pos (by decide)),
      (hlt.trans_le hpow).trans hbase⟩, Nat.one_pos, Nat.one_lt_pow (by omega) (by decide)⟩
  · have hpow : 2 ^ (-x.scale).toNat ≤ 2 ^ k := Nat.pow_le_pow_right (by decide) (by omega)
    have hsmall : 2 ^ 53 ≤ 2 ^ k := Nat.pow_le_pow_right (by decide) (by omega)
    exact ⟨⟨mantissa_pos hx, (hm.trans_le hsmall).trans hbase⟩, Nat.pow_pos (by decide),
      hpow.trans_lt hbase⟩

/-- What is kept of a double has a digit, at most fifteen of them, and a small exponent. -/
theorem significant_bounds (hx : x.isZero = false) :
    let d := Decimal.significant hostDigits x.fraction.1 x.fraction.2
    Decimal.stripZeros d.digits ≠ [] ∧ (Decimal.stripZeros d.digits).length ≤ 15 ∧
      |d.exponent| ≤ 1075 := by
  intro d
  obtain ⟨⟨hn, hn'⟩, hd, hd'⟩ := fraction_bounds hx (Nat.le_refl 1074)
  obtain ⟨c, hc, hlt, hdigits, hexp, -⟩ := Decimal.exists_significant hn hd 14
  have hdigits : d.digits = Nat.toDigits 10 c := hdigits
  have hexp : d.exponent = _ ∨ d.exponent = _ := hexp
  have habs := abs_decimalExponent_le hn hd hn' hd'
  refine ⟨?_, ?_, ?_⟩
  · rw [hdigits]
    exact Decimal.stripZeros_toDigits_ne_nil ((Nat.pow_pos (by decide)).trans_le hc)
  · refine (Decimal.length_stripZeros_le _).trans ?_
    rw [hdigits]
    exact (Nat.length_toDigits_le_iff (by decide) (by decide)).mpr hlt
  · rw [abs_le] at habs ⊢
    omega

end Double
end GuestRuntime
