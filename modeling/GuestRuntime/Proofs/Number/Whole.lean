import GuestRuntime.Proofs.Number.Magnitude

/-!
Whole numbers as doubles. A number below 2 ^ 53 has a bit for each of its own, shifted up until the
leading one is the fifty-third:

        n = 5      1 0 1 0 0 … 0      significand 5 * 2 ^ 50, scale -50

so nothing of it is rounded away, and dropping to a whole number gives it back. Main statements:
`bits_ofNat` and `clampNat_ofNat`.
-/

namespace GuestRuntime.Double

variable {n top b t : Nat} {x : Double}

/-- A number below 2 ^ 53, shifted up to fifty-three bits. -/
theorem shifted_bounds (hn : 0 < n) (h : n < 2 ^ 53) :
    n.log2 ≤ 52 ∧ 2 ^ 52 ≤ n * 2 ^ (52 - n.log2) ∧ n * 2 ^ (52 - n.log2) < 2 ^ 53 := by
  have hlow : 2 ^ n.log2 ≤ n := Nat.log2_self_le hn.ne'
  have hhigh : n < 2 ^ (n.log2 + 1) := Nat.lt_log2_self
  have hlog : n.log2 < 53 := (Nat.log2_lt hn.ne').mpr h
  have hfull : 2 ^ n.log2 * 2 ^ (52 - n.log2) = 2 ^ 52 := by
    rw [← Nat.pow_add, Nat.add_sub_of_le (by omega)]
  have hnext : 2 ^ (n.log2 + 1) * 2 ^ (52 - n.log2) = 2 ^ 53 := by
    rw [← Nat.pow_add]
    congr 1
    omega
  refine ⟨by omega, ?_, ?_⟩
  · rw [← hfull]
    exact Nat.mul_le_mul_right _ hlow
  · rw [← hnext]
    exact Nat.mul_lt_mul_of_pos_right hhigh (Nat.pow_pos (by decide))

theorem scaleOf_one (hn : 0 < n) (h : n < 2 ^ 53) : scaleOf n 1 = (n.log2 : Int) - 52 := by
  obtain ⟨hlog, hlow, -⟩ := shifted_bounds hn h
  have hone : (1 : Nat).log2 = 0 := by decide
  have hneg : ¬ (0 : Int) ≤ (n.log2 : Int) - (0 : Nat) - 53 := by omega
  have hup : (-((n.log2 : Int) - (0 : Nat) - 53)).toNat = 52 - n.log2 + 1 := by omega
  have hbig : ¬ n * pow2 (52 - n.log2 + 1) / 1 < pow2 53 := by
    rw [Nat.div_one, pow2_eq, pow2_eq, Nat.pow_succ, ← Nat.mul_assoc]
    omega
  simp only [scaleOf, hone, if_neg hneg, hup, if_neg hbig]
  omega

theorem roundHalfEven_one (m : Nat) : roundHalfEven m 1 = m := by
  simp [roundHalfEven, Nat.mod_one]

/-- The bits of a whole number. -/
theorem bits_ofNat (hn : 0 < n) (h : n < 2 ^ 53) :
    (ofNat n).bits.toNat = (n.log2 + 1022) * 2 ^ 52 + n * 2 ^ (52 - n.log2) := by
  obtain ⟨hlog, hlow, hhigh⟩ := shifted_bounds hn h
  have hround : (if (0 : Int) ≤ (n.log2 : Int) - 52 then
      roundHalfEven n (1 * pow2 ((n.log2 : Int) - 52).toNat)
      else roundHalfEven (n * pow2 (-((n.log2 : Int) - 52)).toNat) 1) =
      n * 2 ^ (52 - n.log2) := by
    split
    · have hzero : ((n.log2 : Int) - 52).toNat = 0 := by omega
      have hnone : 52 - n.log2 = 0 := by omega
      simp [hzero, hnone, pow2_eq, roundHalfEven_one]
    · have hup : (-((n.log2 : Int) - 52)).toNat = 52 - n.log2 := by omega
      rw [hup, roundHalfEven_one, pow2_eq]
  have hexp : ((n.log2 : Int) - 52 + 1074).toNat = n.log2 + 1022 := by omega
  rw [ofNat, ofRatio, if_neg hn.ne']
  simp only [scaleOf_one hn h, hround, hexp, UInt64.toNat_ofNat']
  rw [pow2_eq]
  omega

/-- The bits of a positive double, taken apart. -/
theorem fields_of_bits (hb : b < 2048) (ht : t < 2 ^ 52) (hx : x.bits.toNat = b * 2 ^ 52 + t) :
    x.biased = b ∧ x.trailing = t ∧ x.isNegative = false := by
  unfold biased trailing isNegative
  rw [hx, pow2_eq, pow2_eq, decide_eq_false_iff_not]
  omega

/-- A whole number has the sign, the significand and the scale that it should have. -/
theorem fields_ofNat (hn : 0 < n) (h : n < 2 ^ 53) :
    (ofNat n).biased = n.log2 + 1023 ∧ (ofNat n).isNegative = false ∧
      (ofNat n).mantissa = n * 2 ^ (52 - n.log2) ∧ (ofNat n).scale = (n.log2 : Int) - 52 := by
  obtain ⟨hlog, hlow, hhigh⟩ := shifted_bounds hn h
  have hbits : (ofNat n).bits.toNat =
      (n.log2 + 1023) * 2 ^ 52 + (n * 2 ^ (52 - n.log2) - 2 ^ 52) := by
    rw [bits_ofNat hn h]
    omega
  obtain ⟨hbiased, htrailing, hpositive⟩ := fields_of_bits (by omega) (by omega) hbits
  refine ⟨hbiased, hpositive, ?_, ?_⟩
  · rw [mantissa, hbiased, htrailing, if_neg (by omega), pow2_eq]
    omega
  · rw [scale, hbiased]
    omega

/-- The fraction of a whole number is the number. -/
theorem floorNat_ofNat (h : n < 2 ^ 53) : (ofNat n).floorNat = n := by
  rcases Nat.eq_zero_or_pos n with rfl | hn
  · have hmantissa : (ofNat 0).mantissa = 0 := by decide
    have hfraction : (ofNat 0).fraction.1 = 0 := by
      rw [fraction, hmantissa]
      split
      · exact Nat.zero_mul _
      · rfl
    rw [floorNat, hfraction, Nat.zero_div]
  obtain ⟨-, -, hmantissa, hscale⟩ := fields_ofNat hn h
  obtain ⟨hlog, -, -⟩ := shifted_bounds hn h
  rw [floorNat, fraction, hmantissa, hscale]
  split
  · have hzero : ((n.log2 : Int) - 52).toNat = 0 := by omega
    have hnone : 52 - n.log2 = 0 := by omega
    simp [hzero, hnone, pow2_eq]
  · have hdown : (-((n.log2 : Int) - 52)).toNat = 52 - n.log2 := by omega
    simp only [hdown, pow2_eq]
    exact Nat.mul_div_cancel n (Nat.pow_pos (by decide))

/-- A whole number dropped into a range that it lies in is unchanged. -/
theorem clampNat_ofNat (h : n < 2 ^ 53) (htop : n ≤ top) : (ofNat n).clampNat top = n := by
  have hclass : (ofNat n).isNaN = false ∧ (ofNat n).isInfinite = false ∧
      (ofNat n).isNegative = false := by
    rcases Nat.eq_zero_or_pos n with rfl | hn
    · decide
    obtain ⟨hbiased, hpositive, -, -⟩ := fields_ofNat hn h
    obtain ⟨hlog, -, -⟩ := shifted_bounds hn h
    have hfinite : ((n.log2 + 1023 : Nat) == 2047) = false := by
      rw [beq_eq_false_iff_ne]
      omega
    rw [isNaN, isInfinite, hbiased, hfinite]
    exact ⟨rfl, rfl, hpositive⟩
  obtain ⟨hnan, hinf, hpositive⟩ := hclass
  simp [clampNat, hnan, hinf, hpositive, floorNat_ofNat h, htop]

theorem toByte_ofNat (b : UInt8) : (ofNat b.toNat).toByte = b := by
  have hb : b.toNat < 256 := b.toNat_lt
  rw [toByte, clampNat_ofNat (by omega) (by omega), UInt8.ofNat_toNat]

end GuestRuntime.Double
