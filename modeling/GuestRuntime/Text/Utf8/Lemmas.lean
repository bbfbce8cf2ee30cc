import GuestRuntime.Text.Utf8

/-!
Reading undoes writing. A scalar value's bytes are one lead byte and as many tails as it owes, and
each tail lies in the range that the bytes before it leave open; so the machine between characters
reads them as that character and is between characters again. Main statements:
`decodeChars_encodeChars` and `decodeLossy_encode`.
-/

namespace GuestRuntime.Utf8

theorem toNat_ofNat_byte {n : Nat} (h : n < 256) : (UInt8.ofNat n).toNat = n := by
  simp [UInt8.toNat_ofNat', Nat.mod_eq_of_lt h]

/-- A byte that is a character. -/
theorem decodeFrom_whole {b : Nat} {c : Char} (r : Bytes) (hb : b < 256) (h : lead b = .whole c) :
    decodeFrom none (UInt8.ofNat b :: r) = c :: decodeFrom none r := by
  simp only [decodeFrom, toNat_ofNat_byte hb, h]

/-- A byte that begins a character. -/
theorem decodeFrom_begun {b : Nat} {p : Pending} (r : Bytes) (hb : b < 256)
    (h : lead b = .begun p) :
    decodeFrom none (UInt8.ofNat b :: r) = decodeFrom (some p) r := by
  simp only [decodeFrom, toNat_ofNat_byte hb, h]

/-- A byte that is owed, with more behind it. -/
theorem decodeFrom_tail {owed low high bits b : Nat} (r : Bytes) (hb : b < 256)
    (h : low ≤ b ∧ b ≤ high) :
    decodeFrom (some ⟨owed + 2, low, high, bits⟩) (UInt8.ofNat b :: r) =
      decodeFrom (some ⟨owed + 1, 0x80, 0xBF, bits * 64 + (b - 0x80)⟩) r := by
  simp [decodeFrom, toNat_ofNat_byte hb, h]

/-- The last byte that is owed finishes the character. -/
theorem decodeFrom_last {low high bits b : Nat} (r : Bytes) (hb : b < 256)
    (h : low ≤ b ∧ b ≤ high) :
    decodeFrom (some ⟨1, low, high, bits⟩) (UInt8.ofNat b :: r) =
      Char.ofNat (bits * 64 + (b - 0x80)) :: decodeFrom none r := by
  simp [decodeFrom, toNat_ofNat_byte hb, h]

/-- The bytes of a scalar value read back as it. -/
theorem decodeFrom_encodeScalar {n : Nat} (h : n.isValidChar) (r : Bytes) :
    decodeFrom none (encodeScalar n ++ r) = Char.ofNat n :: decodeFrom none r := by
  have h : n < 0xD800 ∨ (0xDFFF < n ∧ n < 0x110000) := h
  unfold encodeScalar
  split
  · have first : lead n = .whole (Char.ofNat n) := by grind [lead]
    exact decodeFrom_whole r (by omega) first
  split
  · have first : lead (0xC0 + n / 64) = .begun ⟨1, 0x80, 0xBF, n / 64⟩ := by grind [lead]
    simp only [List.cons_append, List.nil_append]
    rw [decodeFrom_begun _ (by omega) first, decodeFrom_last]
    · rw [show n / 64 * 64 + (0x80 + n % 64 - 0x80) = n by omega]
    all_goals omega
  split
  · have first : lead (0xE0 + n / 4096) = .begun ⟨2, if n / 4096 = 0 then 0xA0 else 0x80,
        if n / 4096 = 13 then 0x9F else 0xBF, n / 4096⟩ := by grind [lead]
    simp only [List.cons_append, List.nil_append]
    rw [decodeFrom_begun _ (by omega) first, decodeFrom_tail, decodeFrom_last]
    · rw [show (n / 4096 * 64 + (0x80 + n / 64 % 64 - 0x80)) * 64 + (0x80 + n % 64 - 0x80) = n by
        omega]
    all_goals grind
  · have first : lead (0xF0 + n / 262144) = .begun ⟨3, if n / 262144 = 0 then 0x90 else 0x80,
        if n / 262144 = 4 then 0x8F else 0xBF, n / 262144⟩ := by grind [lead]
    simp only [List.cons_append, List.nil_append]
    rw [decodeFrom_begun _ (by omega) first, decodeFrom_tail, decodeFrom_tail, decodeFrom_last]
    · rw [show ((n / 262144 * 64 + (0x80 + n / 4096 % 64 - 0x80)) * 64 +
        (0x80 + n / 64 % 64 - 0x80)) * 64 + (0x80 + n % 64 - 0x80) = n by omega]
    all_goals grind

theorem decodeChars_encodeChars (s : List Char) : decodeChars (encodeChars s) = s := by
  induction s with
  | nil => rfl
  | cons c r ih =>
    have h := @decodeFrom_encodeScalar c.toNat c.valid (encodeChars r)
    rw [Char.ofNat_toNat] at h
    exact h.trans (congrArg (c :: ·) ih)

theorem encode_append (s t : String) : encode (s ++ t) = encode s ++ encode t := by
  simp [encode, encodeChars]

theorem decodeLossy_encode (s : String) : decodeLossy (encode s) = s := by
  simp [decodeLossy, encode, decodeChars_encodeChars]

end GuestRuntime.Utf8
