import Mathlib.Data.List.DropRight
import GuestRuntime.Proofs.Number.Layout
import GuestRuntime.Proofs.Number.Magnitude

/-!
Doubles as the host shows them. The magnitude is rounded to fifteen digits, the zeros at their end
are left out, and what is left is written in the shorter of the two notations:

        0.1 + 0.2     3.00000000000000 at 10 ^ -1     0.3      3e-01
        100000.0      1.00000000000000 at 10 ^ 5      100000   1e+05

Either text denotes exactly the fifteen digits. Main statements: `Decimal.rounds_significant` and
`Double.roundedText_notations`.
-/

namespace GuestRuntime

open Numeral

variable {num den n : Nat}

/-! ### Numbers rounded -/

theorem length_toDigits {c : Nat} (hlow : 10 ^ n ≤ c) (hhigh : c < 10 ^ (n + 1)) :
    (Nat.toDigits 10 c).length = n + 1 := by
  have hle : (Nat.toDigits 10 c).length ≤ n + 1 :=
    (Nat.length_toDigits_le_iff (by decide) (Nat.succ_pos n)).mpr hhigh
  rcases Nat.eq_zero_or_pos n with rfl | hn
  · have hpos : 0 < (Nat.toDigits 10 c).length := Nat.length_toDigits_pos
    omega
  · have hlt : ¬ (Nat.toDigits 10 c).length ≤ n := by
      intro h
      have hc : c < 10 ^ n := (Nat.length_toDigits_le_iff (by decide) hn).mp h
      omega
    omega

theorem roundHalfEven_near (hden : 0 < den) :
    |(num : ℚ) / den - roundHalfEven num den| ≤ 1 / 2 := by
  obtain ⟨hlow, hhigh⟩ := roundHalfEven_within num den hden
  have hd : (0 : ℚ) < den := by exact_mod_cast hden
  have hlow : 2 * (num : ℚ) ≤ (2 * roundHalfEven num den + 1) * den := by exact_mod_cast hlow
  have hhigh : 2 * (roundHalfEven num den : ℚ) * den ≤ 2 * num + den := by exact_mod_cast hhigh
  have h₁ : (num : ℚ) / den ≤ roundHalfEven num den + 1 / 2 := by
    rw [div_le_iff₀ hd]
    linarith
  have h₂ : (roundHalfEven num den : ℚ) - 1 / 2 ≤ num / den := by
    rw [le_div_iff₀ hd]
    linarith
  rw [abs_le]
  constructor <;> linarith

/-- Rounded at any place, a fraction is within half a unit of that place. -/
theorem scaleTen_near (hden : 0 < den) (e : Int) :
    let s := scaleTen num den e
    |(num : ℚ) / den - roundHalfEven s.1 s.2 * 10 ^ e| ≤ 10 ^ e / 2 := by
  intro s
  have hunit : (0 : ℚ) < 10 ^ e := by positivity
  have hs : (s.1 : ℚ) / s.2 = num / den / 10 ^ e := scaleTen_eq hden e
  have hscaled : (num : ℚ) / den - roundHalfEven s.1 s.2 * 10 ^ e =
      (s.1 / s.2 - roundHalfEven s.1 s.2) * 10 ^ e := by
    rw [hs, sub_mul, div_mul_cancel₀ _ hunit.ne']
  rw [hscaled, abs_mul, abs_of_pos hunit]
  have hhalf : |(s.1 : ℚ) / s.2 - roundHalfEven s.1 s.2| ≤ 1 / 2 :=
    roundHalfEven_near (scaleTen_pos hden e)
  have hnear := mul_le_mul_of_nonneg_right hhalf hunit.le
  linarith

namespace Decimal

variable {d d' : Decimal} {p q : ℚ}

/-! ### Zeros at the end -/

/-- A decimal without the zeros at its end. -/
def trimmed (d : Decimal) : Decimal := ⟨stripZeros d.digits, d.exponent⟩

theorem exists_stripZeros (l : List Char) : ∃ k, l = stripZeros l ++ zeros k := by
  refine ⟨(l.rtakeWhile (· == '0')).length, ?_⟩
  have hzeros : l.rtakeWhile (· == '0') = zeros (l.rtakeWhile (· == '0')).length := by
    refine List.eq_replicate_of_mem ?_
    intro c hc
    simpa using List.mem_rtakeWhile_imp hc
  rw [← hzeros]
  exact (List.rdropWhile_append_rtakeWhile ..).symm

theorem getLast?_stripZeros (l : List Char) : (stripZeros l).getLast? ≠ some '0' := by
  intro h
  rw [stripZeros, List.getLast?_reverse] at h
  have hhead := List.head?_dropWhile_not (· == '0') l.reverse
  rw [h] at hhead
  exact absurd hhead (by decide)

theorem value_trimmed (d : Decimal) : d.trimmed.value = d.value := by
  obtain ⟨k, hk⟩ := exists_stripZeros d.digits
  have hnatural : natural d.digits = natural (stripZeros d.digits) * 10 ^ k := by
    conv_lhs => rw [hk, natural_append, natural_zeros, length_zeros, Nat.add_zero]
  have hlen : d.digits.length = (stripZeros d.digits).length + k := by
    conv_lhs => rw [hk, List.length_append, length_zeros]
  have hplace : d.exponent - (((stripZeros d.digits).length : Int) - 1) =
      k + (d.exponent - ((d.digits.length : Int) - 1)) := by
    omega
  rw [value, value, trimmed, hplace, hnatural, zpow_add₀ (by norm_num), zpow_natCast]
  push_cast
  ring

/-! ### Rounding to a number of digits -/

/-- The decimal has so many digits, the first of them not a zero, and is within half a unit of the
last from the number. -/
structure Rounds (n : Nat) (q : ℚ) (d : Decimal) : Prop where
  digits : IsDigits d.digits
  length : d.digits.length = n
  first : d.digits.head? ≠ some '0'
  near : |q - d.value| ≤ 10 ^ (d.exponent - ((n : Int) - 1)) / 2

theorem rounds_significant (hnum : 0 < num) (hden : 0 < den) (n : Nat) :
    (significant (n + 1) num den).Rounds (n + 1) (num / den) := by
  obtain ⟨c, hlow, hhigh, hdigits, hexp, hvalue⟩ := exists_significant hnum hden n
  have hlen : (Nat.toDigits 10 c).length = n + 1 := length_toDigits hlow hhigh
  have hplace : ((n + 1 : Nat) : Int) - 1 = n := by omega
  refine ⟨?_, ?_, ?_, ?_⟩
  · rw [hdigits]
    exact isDigits_toDigits c
  · rw [hdigits, hlen]
  · rw [hdigits]
    exact head?_toDigits ((Nat.pow_pos (by decide)).trans_le hlow)
  · rw [value, hdigits, natural_toDigits, hlen, hplace, hvalue]
    refine (scaleTen_near hden _).trans ?_
    have hunit : (10 : ℚ) ^ (decimalExponent num den - n) ≤
        10 ^ ((significant (n + 1) num den).exponent - n) := by
      refine zpow_le_zpow_right₀ (by norm_num) ?_
      omega
    linarith

theorem Rounds.isTrimmed (h : d.Rounds n q) : d.trimmed.IsTrimmed := by
  obtain ⟨k, hk⟩ := exists_stripZeros d.digits
  have hne : stripZeros d.digits ≠ [] := by
    intro hnil
    obtain ⟨c, r, hcr, -, hne, -⟩ := exists_first h.digits h.first
    exact hne (stripZeros_eq_nil hnil c (hcr ▸ List.mem_cons_self))
  refine ⟨⟨hne, ?_⟩, ?_, getLast?_stripZeros _⟩
  · intro c hc
    exact h.digits.2 c (hk ▸ List.mem_append_left _ hc)
  · have hfirst := h.first
    rw [hk, List.head?_append_of_ne_nil _ hne] at hfirst
    exact hfirst

/-- The first digit stands where the exponent says. -/
theorem Rounds.value_bounds (h : d.Rounds n q) :
    10 ^ d.exponent ≤ d.value ∧ d.value < 10 ^ (d.exponent + 1) := by
  obtain ⟨c, r, hcr, hc, hne, hr⟩ := exists_first h.digits h.first
  rw [value_cons hcr]
  exact scaled_bounds hc hne hr d.exponent

/-- As many digits with the same value are the same digits in the same place. -/
theorem Rounds.eq_of_value_eq (h : d.Rounds n p) (h' : d'.Rounds n q) (hv : d.value = d'.value) :
    d = d' := by
  have hexp : d.exponent = d'.exponent := by
    obtain ⟨hlow, hhigh⟩ := h.value_bounds
    obtain ⟨hlow', hhigh'⟩ := h'.value_bounds
    rw [← hv] at hlow' hhigh'
    exact exponent_unique hlow hhigh hlow' hhigh'
  have hnatural : natural d.digits = natural d'.digits := by
    rw [value, value, h.length, h'.length, hexp] at hv
    exact_mod_cast mul_right_cancel₀ (zpow_ne_zero _ (by norm_num)) hv
  have hdigits : d.digits = d'.digits :=
    eq_of_natural_eq h.digits.2 h'.digits.2 (h.length.trans h'.length.symm) hnatural
  cases d
  cases d'
  simp_all

end Decimal

namespace Double

variable {x y : Double}

/-- The magnitude of a finite number. -/
def magnitude (x : Double) : ℚ := x.fraction.1 / x.fraction.2

/-- The number that a finite double is. -/
def toRat (x : Double) : ℚ := if x.isNegative then -x.magnitude else x.magnitude

/-- The fifteen digits that are kept of a number. -/
def kept (x : Double) : Decimal := Decimal.significant hostDigits x.fraction.1 x.fraction.2

theorem magnitude_pos (hx : x.isZero = false) : 0 < x.magnitude := by
  obtain ⟨⟨hn, -⟩, hd, -⟩ := fraction_bounds hx le_rfl
  have hn : (0 : ℚ) < x.fraction.1 := by exact_mod_cast hn
  have hd : (0 : ℚ) < x.fraction.2 := by exact_mod_cast hd
  exact div_pos hn hd

theorem toRat_neg_iff (hx : x.isZero = false) : x.toRat < 0 ↔ x.isNegative := by
  have hpos := magnitude_pos hx
  rw [toRat]
  split
  · next h => simp [h, hpos]
  · next h => simp [h, hpos.le]

theorem abs_toRat (hx : x.isZero = false) : |x.toRat| = x.magnitude := by
  have hpos := magnitude_pos hx
  rw [toRat]
  split
  · rw [abs_neg, abs_of_pos hpos]
  · rw [abs_of_pos hpos]

theorem rounds_kept (hx : x.isZero = false) : x.kept.Rounds hostDigits x.magnitude := by
  obtain ⟨⟨hn, -⟩, hd, -⟩ := fraction_bounds hx le_rfl
  exact Decimal.rounds_significant hn hd 14

/-- A number other than zero is shown as a sign, if it is negative, and the shorter text of what is
kept of it. -/
theorem toList_roundedText (hx : x.isZero = false) :
    x.roundedText.toList = (if x.toRat < 0 then ['-'] else []) ++
      shorter x.kept.trimmed.fixed x.kept.trimmed.scientific := by
  have htext : x.roundedText = String.ofList (if x.isNegative then
      '-' :: shorter x.kept.trimmed.fixed x.kept.trimmed.scientific else
      shorter x.kept.trimmed.fixed x.kept.trimmed.scientific) := by
    rw [roundedText, hx]
    rfl
  rw [htext, String.toList_ofList]
  simp only [toRat_neg_iff hx]
  split <;> rfl

theorem notations_kept (hx : x.isZero = false) :
    Notations x.kept.value x.kept.trimmed.fixed x.kept.trimmed.scientific := by
  rw [← Decimal.value_trimmed]
  exact (rounds_kept hx).isTrimmed.notations

/-- A sign before what begins with a digit can be told from it. -/
theorem sign_append_inj {a b : Prop} [Decidable a] [Decidable b] {t u : List Char}
    (ht : ∃ c r, t = c :: r ∧ c.isDigit) (hu : ∃ c r, u = c :: r ∧ c.isDigit)
    (h : (if a then ['-'] else []) ++ t = (if b then ['-'] else []) ++ u) : (a ↔ b) ∧ t = u := by
  obtain ⟨c, r, rfl, hc⟩ := ht
  obtain ⟨c', r', rfl, hc'⟩ := hu
  have hne : c ≠ '-' := ne_of_isDigit hc rfl
  have hne' : c' ≠ '-' := ne_of_isDigit hc' rfl
  by_cases ha : a
  · by_cases hb : b
    · simpa [ha, hb] using h
    · simp [ha, hb, hne'.symm] at h
  · by_cases hb : b
    · simp [ha, hb, hne] at h
    · simpa [ha, hb] using h

/-- Numbers that are shown alike have the same sign, and the same is kept of them: the text denotes
what is kept. -/
theorem kept_eq_of_roundedText_eq (hx : x.isZero = false) (hy : y.isZero = false)
    (h : x.roundedText = y.roundedText) : (x.toRat < 0 ↔ y.toRat < 0) ∧ x.kept = y.kept := by
  have hnx := notations_kept hx
  have hny := notations_kept hy
  have htext := congrArg String.toList h
  rw [toList_roundedText hx, toList_roundedText hy] at htext
  obtain ⟨hsign, hbody⟩ := sign_append_inj hnx.exists_digit hny.exists_digit htext
  have hvalue : some x.kept.value = some y.kept.value := by
    rw [← hnx.shorter_value, hbody, hny.shorter_value]
  exact ⟨hsign, (rounds_kept hx).eq_of_value_eq (rounds_kept hy) (Option.some.inj hvalue)⟩

/-- Either zero is shown as 0. Of any other number fifteen digits are kept, rounded; they have just
one text in each notation, and the shorter of these is shown, the positional one if they are as
long, behind a minus exactly if the number is negative. Numbers that are shown alike have the same
sign and the same fifteen digits in the same place. -/
theorem roundedText_notations (x y : Double) :
    (x.isZero → x.roundedText = "0") ∧
      (x.isZero = false → x.kept.Rounds 15 |x.toRat| ∧ ∃ fixed scientific,
        Notations x.kept.value fixed scientific ∧
          (∀ fixed' scientific', Notations x.kept.value fixed' scientific' →
            fixed' = fixed ∧ scientific' = scientific) ∧
          x.roundedText.toList = (if x.toRat < 0 then ['-'] else []) ++ shorter fixed scientific) ∧
      (x.isZero = false → y.isZero = false → x.roundedText = y.roundedText →
        (x.toRat < 0 ↔ y.toRat < 0) ∧ x.kept = y.kept) := by
  refine ⟨?_, ?_, kept_eq_of_roundedText_eq⟩
  · intro hx
    exact if_pos hx
  · intro hx
    rw [abs_toRat hx]
    refine ⟨rounds_kept hx, _, _, notations_kept hx, ?_, toList_roundedText hx⟩
    intro fixed' scientific' h'
    exact h'.unique (notations_kept hx)

/-- The sum of one tenth and two tenths is one bit above three tenths, and shown as they are. -/
theorem roundedText_notations_tenths :
    (⟨0x3FD3333333333334⟩ : Double).kept.Rounds 15 |(⟨0x3FD3333333333334⟩ : Double).toRat| ∧
      (⟨0x3FD3333333333334⟩ : Double).kept = (⟨0x3FD3333333333333⟩ : Double).kept ∧
      (⟨0x3FD3333333333334⟩ : Double).roundedText = "0.3" := by
  obtain ⟨-, hshown, halike⟩ := roundedText_notations ⟨0x3FD3333333333334⟩ ⟨0x3FD3333333333333⟩
  have htext : (⟨0x3FD3333333333334⟩ : Double).roundedText = "0.3" := by decide
  have htext' : (⟨0x3FD3333333333333⟩ : Double).roundedText = "0.3" := by decide
  obtain ⟨-, hkept⟩ := halike (by decide) (by decide) (htext.trans htext'.symm)
  exact ⟨(hshown (by decide)).1, hkept, htext⟩

end Double
end GuestRuntime
