import GuestRuntime.Proofs.Checked.Step
import GuestRuntime.Proofs.Number.Magnitude

/-!
A number's text with its checks. The digits and the exponent decide which figures stand before the
point and which behind it; every sum of an exponent and a length must fit in 32 bits, every number
of zeros must be one, and digits are cut only where there are some:

        digits 15, exponent -3 ──▶ 0 . 00 15
                    exponent 0 ──▶ 1 . 5
                    exponent 3 ──▶ 15 00

Main statement: `roundedText_eq`.
-/

namespace GuestRuntime.Checked

/-- A number of copies; one below zero would be too large for any memory. -/
def count (n : Int) : Step Nat := if 0 ≤ n then .ok n.toNat else .error .overflow

/-- A text cut in two. -/
def cut (s : List Char) (n : Nat) : Step (List Char × List Char) := do
  return (← slice s 0 n, ← slice s n s.length)

/-- Positional notation. -/
def fixed (digits : List Char) (exponent : Int) : Step (List Char) := do
  let length : Int := digits.length
  if exponent < 0 then
    let gap ← short ((← short (-exponent)) - 1)
    return '0' :: '.' :: Decimal.zeros (← count gap) ++ digits
  else if length ≤ (← short (exponent + 1)) then
    let gap ← short ((← short (exponent + 1)) - length)
    return digits ++ Decimal.zeros (← count gap)
  else
    let (whole, rest) ← cut digits (← count (← short (exponent + 1)))
    return whole ++ '.' :: rest

/-- Scientific notation. -/
def scientific (digits : List Char) (exponent : Int) : Step (List Char) := do
  let (lead, rest) ← cut digits 1
  let tail := if rest.isEmpty then [] else '.' :: rest
  let size ← short |exponent|
  return lead ++ tail ++ 'e' :: (if exponent < 0 then '-' else '+') :: Decimal.twoDigits size.toNat

/-- A finite number as the host shows it; an exponent that is none of 32 bits is no obstacle. -/
def roundedText (x : Double) : Step String := do
  if x.isZero then return "0"
  else
    let d := Decimal.significant Double.hostDigits x.fraction.1 x.fraction.2
    let digits := Decimal.stripZeros d.digits
    match short d.exponent with
    | .error _ => return x.plainText
    | .ok exponent =>
      let plain ← fixed digits exponent
      let scientific ← scientific digits exponent
      let body := if plain.length ≤ scientific.length then plain else scientific
      return String.ofList (if x.isNegative then '-' :: body else body)

variable {digits : List Char} {exponent n : Int}

theorem count_eq (h : 0 ≤ n) : count n = .ok n.toNat := if_pos h

theorem short_of_abs (h : |n| ≤ 2000) : short n = .ok n := by
  rw [abs_le] at h
  refine short_eq ?_
  unfold shortTop
  omega

theorem cut_eq {k : Nat} (h : k ≤ digits.length) :
    cut digits k = .ok (digits.take k, digits.drop k) := by
  have htake : (digits.drop k).take (digits.length - k) = digits.drop k :=
    List.take_of_length_le (by rw [List.length_drop])
  rw [cut, slice_eq (Nat.zero_le k) h, slice_eq h le_rfl, htake]
  rfl

/-- Nothing is out of range in positional notation. -/
theorem fixed_eq (hd : digits.length ≤ 15) (he : |exponent| ≤ 1075) :
    fixed digits exponent = .ok (Decimal.fixed ⟨digits, exponent⟩) := by
  rw [abs_le] at he
  have hshort : ∀ k : Int, -1100 ≤ k → k ≤ 1100 → short k = .ok k := fun k hk hk' =>
    short_of_abs (abs_le.mpr ⟨by omega, by omega⟩)
  unfold fixed Decimal.fixed
  dsimp only
  by_cases hneg : exponent < 0
  · rw [if_pos hneg, if_pos hneg, hshort _ (by omega) (by omega), ok_bind,
      hshort _ (by omega) (by omega), ok_bind, count_eq (by omega)]
    rfl
  rw [if_neg hneg, if_neg hneg, hshort (exponent + 1) (by omega) (by omega), ok_bind]
  by_cases hlen : digits.length ≤ exponent.toNat + 1
  · rw [if_pos (by omega), if_pos hlen, ok_bind, hshort _ (by omega) (by omega), ok_bind,
      count_eq (by omega), show (exponent + 1 - digits.length).toNat =
        exponent.toNat + 1 - digits.length by omega]
    rfl
  · rw [if_neg (by omega), if_neg hlen, ok_bind, count_eq (by omega), ok_bind,
      show (exponent + 1).toNat = exponent.toNat + 1 by omega, cut_eq (by omega)]
    rfl

/-- There is a first digit to cut off. -/
theorem scientific_eq (hd : digits ≠ []) (he : |exponent| ≤ 1075) :
    scientific digits exponent = .ok (Decimal.scientific ⟨digits, exponent⟩) := by
  have hsize : short |exponent| = .ok |exponent| := short_of_abs (by rw [abs_abs]; omega)
  have habs : |exponent|.toNat = exponent.natAbs := by rw [Int.abs_eq_natAbs, Int.toNat_natCast]
  rw [scientific, cut_eq (List.length_pos_iff.mpr hd), ok_bind]
  dsimp only
  rw [hsize, ok_bind, habs, Decimal.scientific]
  dsimp only
  cases digits.drop 1 with
  | nil => rfl
  | cons c r => rfl

/-- The text of a number is found without a trap: the digits of a number that is not zero are at
most fifteen, and some. -/
theorem roundedText_eq (x : Double) : roundedText x = .ok x.roundedText := by
  unfold roundedText Double.roundedText
  cases hx : x.isZero with
  | true => rfl
  | false =>
    obtain ⟨hne, hlen, hexp⟩ := Double.significant_bounds hx
    dsimp only at hne hlen hexp ⊢
    have hshort := short_of_abs (hexp.trans (by decide))
    simp only [hshort, fixed_eq hlen hexp, scientific_eq hne hexp, ok_bind]
    rfl

end GuestRuntime.Checked
