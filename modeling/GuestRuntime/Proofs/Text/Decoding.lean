import GuestRuntime.Text.Utf8.Lemmas

/-!
Reading bytes that need not be text. A byte below 0x80 ends what is pending and is a character of
its own, so lines are the same before and after reading:

        l 0A r  ──decode──▶  decode l \n decode r

and no other byte makes a character below 0x80, apart from the zero. Main statements:
`decodeChars_whole`, `mem_of_mem_decodeChars` and `isPrefix_of_decodeChars`.
-/

namespace GuestRuntime.Utf8

/-- A character of one byte which is not zero. -/
def IsPlain (c : Char) : Prop := 0 < c.toNat ∧ c.toNat < 0x80

instance (c : Char) : Decidable (IsPlain c) :=
  inferInstanceAs (Decidable (0 < c.toNat ∧ c.toNat < 0x80))

/-- A character begun which cannot become one of a single byte. -/
structure Pending.IsWide (p : Pending) : Prop where
  low : 0x80 ≤ p.low
  bits : 2 ≤ p.bits * 64 + (p.low - 0x80)
  last : p.owed = 1 → 2 ≤ p.bits

/-- What a byte between characters finishes and begins. -/
def first (b : UInt8) : List Char × Option Pending :=
  match lead b.toNat with
  | .whole c => ([c], none)
  | .begun p => ([], some p)
  | .stray => ([replacement], none)

/-- The characters a byte finishes, and what is pending then. -/
def feed : Option Pending → UInt8 → List Char × Option Pending
  | none, b => first b
  | some p, b =>
    if p.low ≤ b.toNat ∧ b.toNat ≤ p.high then
      if p.owed = 1 then ([Char.ofNat (p.bits * 64 + (b.toNat - 0x80))], none)
      else ([], some ⟨p.owed - 1, 0x80, 0xBF, p.bits * 64 + (b.toNat - 0x80)⟩)
    else (replacement :: (first b).1, (first b).2)

variable {a b r s : Bytes} {x : UInt8} {c : Char} {p : Pending} {o : Option Pending}

theorem decodeFrom_cons (o : Option Pending) (x : UInt8) (r : Bytes) :
    decodeFrom o (x :: r) = (feed o x).1 ++ decodeFrom (feed o x).2 r := by
  cases o with
  | none =>
    rw [decodeFrom, feed, first]
    cases lead x.toNat <;> rfl
  | some p =>
    rw [decodeFrom, feed]
    by_cases hrange : p.low ≤ x.toNat ∧ x.toNat ≤ p.high
    · by_cases howed : p.owed = 1 <;> simp [hrange, howed]
    · rw [if_neg hrange, if_neg hrange, first]
      cases lead x.toNat <;> rfl

/-! ### One byte -/

/-- Only a byte below 0x80 is a character, and what another begins is wide. -/
theorem lead_cases (n : Nat) : (lead n = .whole (Char.ofNat n) ∧ n < 0x80) ∨
    (∃ p, lead n = .begun p ∧ p.IsWide ∧ 0x80 ≤ n) ∨ (lead n = .stray ∧ 0x80 ≤ n) := by
  unfold lead
  split
  · exact .inl ⟨rfl, by omega⟩
  split
  · exact .inr (.inr ⟨rfl, by omega⟩)
  split
  · exact .inr (.inl ⟨_, rfl, ⟨by simp, by simp; omega, by simp; omega⟩, by omega⟩)
  split
  · refine .inr (.inl ⟨_, rfl, ⟨?_, ?_, by simp⟩, by omega⟩)
    · simp only
      split <;> simp
    · simp only
      split <;> omega
  split
  · refine .inr (.inl ⟨_, rfl, ⟨?_, ?_, by simp⟩, by omega⟩)
    · simp only
      split <;> simp
    · simp only
      split <;> omega
  · exact .inr (.inr ⟨rfl, by omega⟩)

theorem not_isPlain_replacement : ¬ IsPlain replacement := by decide

theorem toNat_ofNat_valid {n : Nat} (hv : n.isValidChar) : (Char.ofNat n).toNat = n := by
  rw [Char.ofNat, dif_pos hv]
  rfl

/-- A number that is no scalar value makes a zero. -/
theorem not_isPlain_ofNat {n : Nat} (hn : 0x80 ≤ n) : ¬ IsPlain (Char.ofNat n) := by
  intro h
  by_cases hv : n.isValidChar
  · have hbelow := h.2
    rw [toNat_ofNat_valid hv] at hbelow
    omega
  · have hzero : (Char.ofNat n).toNat = 0 := by simp [Char.ofNat, hv, Char.toNat]
    have := h.1
    omega

theorem toNat_ofNat_whole (hx : x.toNat < 0x80) : (Char.ofNat x.toNat).toNat = x.toNat :=
  toNat_ofNat_valid (.inl (by omega))

/-- What a wide character that is begun becomes is not plain. -/
theorem Pending.IsWide.not_isPlain (h : p.IsWide) (howed : p.owed = 1) (n : Nat) :
    ¬ IsPlain (Char.ofNat (p.bits * 64 + n)) := by
  have := h.last howed
  exact not_isPlain_ofNat (by omega)

theorem Pending.IsWide.next (h : p.IsWide) {n : Nat} (hn : p.low ≤ n) :
    (⟨p.owed - 1, 0x80, 0xBF, p.bits * 64 + (n - 0x80)⟩ : Pending).IsWide := by
  have hlow := h.low
  have hbits := h.bits
  exact ⟨Nat.le_refl _, by simp only; omega, fun _ => by simp only; omega⟩

/-- What is pending stays wide. -/
theorem feed_isWide (ho : ∀ p ∈ o, p.IsWide) (x : UInt8) : ∀ p ∈ (feed o x).2, p.IsWide := by
  have hnone : ∀ p ∈ (first x).2, p.IsWide := by
    rcases lead_cases x.toNat with ⟨hlead, -⟩ | ⟨p, hlead, hp, -⟩ | ⟨hlead, -⟩
    · simp [first, hlead]
    · simpa [first, hlead] using hp
    · simp [first, hlead]
  cases o with
  | none => exact hnone
  | some p =>
    rw [feed]
    by_cases hrange : p.low ≤ x.toNat ∧ x.toNat ≤ p.high
    · by_cases howed : p.owed = 1
      · simp [hrange, howed]
      · simpa [hrange, howed] using (ho p rfl).next hrange.1
    · simpa [hrange] using hnone

/-- A byte below 0x80 ends what is pending, and is a character. -/
theorem feed_whole (ho : ∀ p ∈ o, p.IsWide) (hx : x.toNat < 0x80) :
    feed o x = (decodeFrom o [] ++ [Char.ofNat x.toNat], none) := by
  have hnone : first x = ([Char.ofNat x.toNat], none) := by
    rcases lead_cases x.toNat with ⟨hlead, -⟩ | ⟨_, _, _, hle⟩ | ⟨_, hle⟩
    · simp [first, hlead]
    · omega
    · omega
  cases o with
  | none => exact hnone
  | some p =>
    have hlow := (ho p rfl).low
    rw [feed, if_neg (by omega), hnone]
    rfl

/-- A plain character is the byte that finishes it. -/
theorem eq_of_mem_feed (ho : ∀ p ∈ o, p.IsWide) (hc : IsPlain c) (hmem : c ∈ (feed o x).1) :
    x = UInt8.ofNat c.toNat := by
  by_cases hx : x.toNat < 0x80
  · rw [feed_whole ho hx] at hmem
    rcases List.mem_append.mp hmem with hrest | hlast
    · cases o with
      | none => simp [decodeFrom] at hrest
      | some p =>
        obtain rfl := List.mem_singleton.mp hrest
        exact absurd hc not_isPlain_replacement
    · obtain rfl := List.mem_singleton.mp hlast
      rw [toNat_ofNat_whole hx, UInt8.ofNat_toNat]
  · have hnone : c ∉ (first x).1 := by
      rcases lead_cases x.toNat with ⟨_, hlt⟩ | ⟨p, hlead, -⟩ | ⟨hlead, -⟩
      · exact absurd hlt hx
      · simp [first, hlead]
      · simp only [first, hlead, List.mem_singleton]
        rintro rfl
        exact not_isPlain_replacement hc
    cases o with
    | none => exact absurd hmem hnone
    | some p =>
      rw [feed] at hmem
      by_cases hrange : p.low ≤ x.toNat ∧ x.toNat ≤ p.high
      · by_cases howed : p.owed = 1
        · have hc' : c = Char.ofNat (p.bits * 64 + (x.toNat - 0x80)) := by
            simpa only [if_pos hrange, if_pos howed, List.mem_singleton] using hmem
          exact absurd (hc' ▸ hc) ((ho p rfl).not_isPlain howed _)
        · simp [hrange, howed] at hmem
      · rcases (by simpa [hrange] using hmem : c = replacement ∨ c ∈ (first x).1) with rfl | h
        · exact absurd hc not_isPlain_replacement
        · exact absurd h hnone

/-! ### All bytes -/

theorem decodeFrom_whole_append (ho : ∀ p ∈ o, p.IsWide) (hx : x.toNat < 0x80) (a r : Bytes) :
    decodeFrom o (a ++ x :: r) = decodeFrom o a ++ Char.ofNat x.toNat :: decodeFrom none r := by
  induction a generalizing o with
  | nil => simp [decodeFrom_cons o x r, feed_whole ho hx]
  | cons y a ih => simp [decodeFrom_cons o y, ih (feed_isWide ho y)]

/-- Bytes are read apart from those behind a byte below 0x80. -/
theorem decodeChars_whole (hx : x.toNat < 0x80) (a r : Bytes) :
    decodeChars (a ++ x :: r) = decodeChars a ++ Char.ofNat x.toNat :: decodeChars r :=
  decodeFrom_whole_append (by simp) hx a r

theorem mem_of_mem_decodeFrom (ho : ∀ p ∈ o, p.IsWide) (hc : IsPlain c)
    (hmem : c ∈ decodeFrom o b) : UInt8.ofNat c.toNat ∈ b := by
  induction b generalizing o with
  | nil =>
    cases o with
    | none => simp [decodeFrom] at hmem
    | some p =>
      obtain rfl := List.mem_singleton.mp hmem
      exact absurd hc not_isPlain_replacement
  | cons x b ih =>
    rw [decodeFrom_cons] at hmem
    rcases List.mem_append.mp hmem with hhere | hlater
    · exact eq_of_mem_feed ho hc hhere ▸ List.mem_cons_self ..
    · exact List.mem_cons_of_mem _ (ih (feed_isWide ho x) hlater)

/-- A plain character that is read was there as a byte. -/
theorem mem_of_mem_decodeChars (hc : IsPlain c) (hmem : c ∈ decodeChars b) :
    UInt8.ofNat c.toNat ∈ b :=
  mem_of_mem_decodeFrom (by simp) hc hmem

/-- What is pending becomes something that is not plain. -/
theorem exists_decodeFrom_some (hp : p.IsWide) (b : Bytes) :
    ∃ d s, decodeFrom (some p) b = d :: s ∧ ¬ IsPlain d := by
  induction b generalizing p with
  | nil => exact ⟨replacement, [], rfl, not_isPlain_replacement⟩
  | cons x b ih =>
    rw [decodeFrom_cons, feed]
    by_cases hrange : p.low ≤ x.toNat ∧ x.toNat ≤ p.high
    · by_cases howed : p.owed = 1
      · refine ⟨_, decodeFrom none b, ?_, hp.not_isPlain howed (x.toNat - 0x80)⟩
        rw [if_pos hrange, if_pos howed]
        rfl
      · obtain ⟨d, s, hs, hd⟩ := ih (hp.next hrange.1)
        refine ⟨d, s, ?_, hd⟩
        simpa [hrange, howed] using hs
    · rw [if_neg hrange]
      exact ⟨replacement, _, rfl, not_isPlain_replacement⟩

theorem decodeChars_ne_nil (hb : b ≠ []) : decodeChars b ≠ [] := by
  cases b with
  | nil => exact absurd rfl hb
  | cons x b =>
    rw [decodeChars, decodeFrom_cons, feed, first]
    rcases lead_cases x.toNat with ⟨hlead, -⟩ | ⟨p, hlead, hp, -⟩ | ⟨hlead, -⟩
    · simp [hlead]
    · obtain ⟨d, s, hs, -⟩ := exists_decodeFrom_some hp b
      simp [hlead, hs]
    · simp [hlead]

/-- A plain character in front is the byte in front. -/
theorem eq_cons_of_decodeChars {s : List Char} (hc : IsPlain c) (hb : decodeChars b = c :: s) :
    ∃ r, b = UInt8.ofNat c.toNat :: r ∧ decodeChars r = s := by
  cases b with
  | nil => cases hb
  | cons x r =>
    rw [decodeChars, decodeFrom_cons, feed, first] at hb
    rcases lead_cases x.toNat with ⟨hlead, hx⟩ | ⟨p, hlead, hp, -⟩ | ⟨hlead, -⟩
    · obtain ⟨rfl, rfl⟩ : Char.ofNat x.toNat = c ∧ decodeFrom none r = s := by
        simpa [hlead] using hb
      exact ⟨r, by rw [toNat_ofNat_whole hx, UInt8.ofNat_toNat], rfl⟩
    · obtain ⟨d, t, ht, hd⟩ := exists_decodeFrom_some hp r
      obtain ⟨rfl, -⟩ : d = c ∧ t = s := by simpa [hlead, ht] using hb
      exact absurd hc hd
    · obtain ⟨rfl, -⟩ : replacement = c ∧ decodeFrom none r = s := by simpa [hlead] using hb
      exact absurd hc not_isPlain_replacement

theorem encodeScalar_plain (hc : IsPlain c) : encodeScalar c.toNat = [UInt8.ofNat c.toNat] := by
  rw [encodeScalar, if_pos hc.2]

/-- Plain characters in front are their bytes in front. -/
theorem isPrefix_of_decodeChars {s : List Char} (hs : ∀ c ∈ s, IsPlain c)
    (hb : s <+: decodeChars b) : encodeChars s <+: b := by
  induction s generalizing b with
  | nil => simp [encodeChars]
  | cons c s ih =>
    have hc : IsPlain c := hs c (List.mem_cons_self ..)
    obtain ⟨t, ht⟩ := hb
    obtain ⟨r, rfl, hr⟩ := eq_cons_of_decodeChars hc ht.symm
    have hrest : encodeChars s <+: r :=
      ih (fun d hd => hs d (List.mem_cons_of_mem _ hd)) ⟨t, hr.symm⟩
    rw [encodeChars, List.flatMap_cons, encodeScalar_plain hc]
    exact List.cons_prefix_cons.mpr ⟨rfl, hrest⟩

end GuestRuntime.Utf8
