import GuestRuntime.Text.Terminated
import GuestRuntime.Text.Utf8.Lemmas

/-!
Which texts can be sent. A zero byte in UTF-8 is the character NUL and nothing else, so a text is
refused exactly if it holds that character, and what is received reads as the text that was sent.
Main statements: `ofText_of_mem`, `ofText_of_notMem` and `sendable_or_zero`.
-/

namespace GuestRuntime

namespace Utf8

theorem zero_mem_encodeScalar {n : Nat} (hn : n < 0x110000) : 0 ∈ encodeScalar n ↔ n = 0 := by
  have byte {b : Nat} (hb : b < 256) : (0 : UInt8) = UInt8.ofNat b ↔ b = 0 := by
    rw [eq_comm, ← UInt8.toNat_inj, toNat_ofNat_byte hb]
    rfl
  unfold encodeScalar
  split
  · rw [List.mem_singleton, byte (by omega)]
  split
  · simp only [List.mem_cons, List.not_mem_nil, or_false]
    rw [byte (by omega), byte (by omega)]
    omega
  split
  · simp only [List.mem_cons, List.not_mem_nil, or_false]
    rw [byte (by omega), byte (by omega), byte (by omega)]
    omega
  · simp only [List.mem_cons, List.not_mem_nil, or_false]
    rw [byte (by omega), byte (by omega), byte (by omega), byte (by omega)]
    omega

theorem decodeChars_encode (s : String) : decodeChars (encode s) = s.toList :=
  decodeChars_encodeChars s.toList

theorem zero_mem_encodeChars (s : List Char) : 0 ∈ encodeChars s ↔ '\x00' ∈ s := by
  have nul (c : Char) : 0 ∈ encodeScalar c.toNat ↔ c = '\x00' := by
    have hc : c.toNat < 0x110000 := by
      have hv : c.toNat < 0xD800 ∨ (0xDFFF < c.toNat ∧ c.toNat < 0x110000) := c.valid
      omega
    rw [zero_mem_encodeScalar hc]
    exact ⟨fun h => Char.toNat_inj.mp h, fun h => h ▸ rfl⟩
  simp only [encodeChars, List.mem_flatMap, nul]
  constructor
  · rintro ⟨c, hc, rfl⟩
    exact hc
  · exact fun h => ⟨_, h, rfl⟩

end Utf8

namespace Terminated

theorem nulAt?_eq_none {b : Bytes} : nulAt? b = none ↔ 0 ∉ b := by
  rw [nulAt?, List.findIdx?_eq_none_iff]
  constructor
  · intro h hb
    simpa using h 0 hb
  · intro h x hx
    simp only [beq_eq_false_iff_ne]
    rintro rfl
    exact h hx

theorem ofText_of_notMem {s : String} (h : '\x00' ∉ s.toList) : ofText s = .ok (Utf8.encode s) := by
  have hb : nulAt? (Utf8.encode s) = none :=
    nulAt?_eq_none.mpr fun hz => h ((Utf8.zero_mem_encodeChars _).mp hz)
  rw [ofText, hb]

theorem ofText_of_mem {s : String} (h : '\x00' ∈ s.toList) : ∃ i, ofText s = .error i := by
  have hb : nulAt? (Utf8.encode s) ≠ none :=
    fun hn => nulAt?_eq_none.mp hn ((Utf8.zero_mem_encodeChars _).mpr h)
  obtain ⟨i, hi⟩ := Option.ne_none_iff_exists'.mp hb
  exact ⟨i, by rw [ofText, hi]⟩

/-- A text that can be sent: it has no zero. -/
def IsSendable (t : String) : Prop := '\x00' ∉ t.toList

instance (t : String) : Decidable (IsSendable t) :=
  inferInstanceAs (Decidable ('\x00' ∉ t.toList))

theorem isSendable_iff {t : String} : IsSendable t ↔ nulAt? (Utf8.encode t) = none := by
  rw [nulAt?_eq_none]
  exact not_congr (Utf8.zero_mem_encodeChars t.toList).symm

/-- Texts that can all be sent arrive as they are. -/
theorem ofTexts_of_sendable {l : List String} (h : ∀ t ∈ l, IsSendable t) :
    ofTexts l = .ok (l.map Utf8.encode) := by
  induction l with
  | nil => rfl
  | cons t l ih =>
    have ht : ofText t = .ok (Utf8.encode t) := ofText_of_notMem (h t (List.mem_cons_self ..))
    rw [ofTexts, ht, ih fun u hu => h u (List.mem_cons_of_mem _ hu)]
    rfl

/-- Texts are refused for the first of them that cannot be sent. -/
theorem ofTexts_of_zero {before after : List String} {t : String} {i : Nat}
    (hbefore : ∀ u ∈ before, IsSendable u) (ht : nulAt? (Utf8.encode t) = some i) :
    ofTexts (before ++ t :: after) = .error i := by
  induction before with
  | nil => rw [List.nil_append, ofTexts, ofText, ht]
  | cons u before ih =>
    have hu : ofText u = .ok (Utf8.encode u) :=
      ofText_of_notMem (hbefore u (List.mem_cons_self ..))
    rw [List.cons_append, ofTexts, hu, ih fun v hv => hbefore v (List.mem_cons_of_mem _ hv)]

/-- Either all texts can be sent, or there is a first one that cannot. -/
theorem sendable_or_zero (l : List String) :
    (∀ t ∈ l, IsSendable t) ∨ ∃ before t after i, l = before ++ t :: after ∧
      (∀ u ∈ before, IsSendable u) ∧ nulAt? (Utf8.encode t) = some i := by
  induction l with
  | nil => exact .inl (by simp)
  | cons t l ih =>
    rcases hz : nulAt? (Utf8.encode t) with _ | i
    · have ht : IsSendable t := isSendable_iff.mpr hz
      rcases ih with hall | ⟨before, u, after, i, rfl, hbefore, hu⟩
      · exact .inl (by simpa [ht] using hall)
      · exact .inr ⟨t :: before, u, after, i, rfl, by simpa [ht] using hbefore, hu⟩
    · exact .inr ⟨[], t, l, i, rfl, by simp, hz⟩

theorem isSendable_hexOfBytes (b : UInt8) : IsSendable (hexOfBytes [b]) := by
  have hdigit : ∀ n < 16, hexDigit n ≠ '\x00' := by decide
  have hb := b.toNat_lt
  unfold hexOfBytes IsSendable
  simp only [List.flatMap_cons, List.flatMap_nil, List.append_nil, String.toList_ofList,
    List.mem_cons, List.not_mem_nil, or_false, not_or]
  exact ⟨(hdigit _ (by omega)).symm, (hdigit _ (by omega)).symm⟩

theorem isSendable_join {l : List String} (h : ∀ t ∈ l, IsSendable t) :
    IsSendable (String.join l) := by
  unfold IsSendable
  rw [String.toList_join, List.mem_flatMap]
  rintro ⟨t, ht, hc⟩
  exact h t ht hc

end Terminated
end GuestRuntime
