import Mathlib.Algebra.Order.Field.Power
import Mathlib.Data.List.TakeWhile
import Mathlib.Data.Rat.Cast.Order
import Mathlib.Tactic.FieldSimp
import Mathlib.Tactic.Linarith
import Mathlib.Tactic.NormNum
import Mathlib.Tactic.Positivity
import Mathlib.Tactic.Ring

/-!
Decimal numerals as text, and the numbers that they denote. There are two notations, and a number
has at most one text in each of them, because no zero is written that could be left out:

        0.0052       digits, and digits behind a point
        5.2e-03      one digit that is no zero, digits behind a point, and the power of ten

Main statements: `value?_pointed`, `value?_powered` and `Notations.unique`.
-/

namespace GuestRuntime.Numeral

/-! ### Reading a numeral -/

/-- One digit at least, and nothing else. -/
def IsDigits (t : List Char) : Prop := t ≠ [] ∧ ∀ c ∈ t, c.isDigit

instance (t : List Char) : Decidable (IsDigits t) := inferInstanceAs (Decidable (_ ∧ _))

/-- The number that digits denote. -/
def natural (t : List Char) : Nat := Nat.ofDigitChars 10 t 0

def natural? (t : List Char) : Option Nat := if IsDigits t then some (natural t) else none

/-- Digits, and perhaps a point and more digits. -/
def positional? (t : List Char) : Option ℚ :=
  match t.dropWhile (· != '.') with
  | [] => (natural? t).map fun n => (n : ℚ)
  | _ :: f => do
    let n ← natural? (t.takeWhile (· != '.'))
    let k ← natural? f
    return n + k / 10 ^ f.length

/-- A sign and digits. -/
def exponent? : List Char → Option Int
  | '+' :: p => (natural? p).map fun n => (n : Int)
  | '-' :: p => (natural? p).map fun n => -(n : Int)
  | _ => none

/-- The number that a numeral denotes; what is no numeral denotes none. -/
def value? (t : List Char) : Option ℚ :=
  match t.dropWhile (· != 'e') with
  | [] => positional? t
  | _ :: p => do
    let m ← positional? (t.takeWhile (· != 'e'))
    let e ← exponent? p
    return m * 10 ^ e

/-! ### The two notations -/

/-- Digits that stand in front of a point: no zero before another digit. -/
structure IsWhole (w : List Char) : Prop where
  digits : IsDigits w
  leading : w.head? = some '0' → w = ['0']

/-- Digits that stand behind a point, perhaps none: no zero at the end. -/
structure IsFraction (f : List Char) : Prop where
  digits : ∀ c ∈ f, c.isDigit
  last : f.getLast? ≠ some '0'

/-- Digits of a power: two at least, and no zero before more than one other. -/
structure IsPower (p : List Char) : Prop where
  digits : IsDigits p
  two : 2 ≤ p.length
  leading : p.head? = some '0' → p.length = 2

/-- Digits around a point; there is no point if nothing is behind it. -/
def pointed (w f : List Char) : List Char := if f = [] then w else w ++ '.' :: f

/-- Positional notation. -/
inductive IsFixed : List Char → Prop
  | mk {w f} (hw : IsWhole w) (hf : IsFraction f) : IsFixed (pointed w f)

/-- Scientific notation. Its power has a sign in any case, and a minus only if it is not zero. -/
inductive IsScientific : List Char → Prop
  | mk {c f s p} (hc : c.isDigit) (hne : c ≠ '0') (hf : IsFraction f) (hp : IsPower p)
    (hs : s = '+' ∨ s = '-' ∧ natural p ≠ 0) : IsScientific (pointed [c] f ++ 'e' :: s :: p)

/-- The texts of a number in the two notations. -/
structure Notations (q : ℚ) (fixed scientific : List Char) : Prop where
  isFixed : IsFixed fixed
  isScientific : IsScientific scientific
  fixed_value : value? fixed = some q
  scientific_value : value? scientific = some q

variable {t u w w' f f' p p' r : List Char} {c d s : Char} {e e' : Int} {q : ℚ}

/-! ### Digits -/

theorem natural_append (t u : List Char) :
    natural (t ++ u) = natural t * 10 ^ u.length + natural u := by
  rw [natural, Nat.ofDigitChars_append, Nat.ofDigitChars_eq_ofDigitChars_zero, Nat.mul_comm]
  rfl

theorem natural_cons (c : Char) (t : List Char) :
    natural (c :: t) = natural [c] * 10 ^ t.length + natural t :=
  natural_append [c] t

theorem natural_zero_cons (t : List Char) : natural ('0' :: t) = natural t := by
  rw [natural_cons]
  simp [natural, Nat.ofDigitChars_cons]

/-- The digits are ten. -/
theorem exists_digitChar (hc : c.isDigit) : natural [c] < 10 ∧ (natural [c]).digitChar = c := by
  obtain ⟨hlow, hhigh⟩ := Char.isDigit_iff_toNat.mp hc
  have hvalue : natural [c] = c.toNat - 48 := by simp [natural, Nat.ofDigitChars_cons]
  have hlow : 48 ≤ c.toNat := hlow
  have hhigh : c.toNat ≤ 57 := hhigh
  have hlt : c.toNat - 48 < 10 := by omega
  refine ⟨by omega, ?_⟩
  rw [hvalue, ← Char.toNat_inj, Nat.toNat_digitChar_of_lt_ten hlt]
  omega

theorem isWhole_digit (hc : c.isDigit) : IsWhole [c] := by
  refine ⟨⟨by simp, by simpa using hc⟩, ?_⟩
  intro h
  rw [Option.some.inj h]

theorem isWhole_of_head? (hw : IsDigits w) (hne : w.head? ≠ some '0') : IsWhole w := by
  refine ⟨hw, ?_⟩
  intro h
  exact absurd h hne

theorem natural_digit_eq_zero (hc : c.isDigit) (h : natural [c] = 0) : c = '0' := by
  obtain ⟨-, hchar⟩ := exists_digitChar hc
  rw [← hchar, h]
  rfl

theorem natural_lt (ht : ∀ c ∈ t, c.isDigit) : natural t < 10 ^ t.length := by
  induction t with
  | nil => decide
  | cons c t ih =>
    obtain ⟨hc, ht⟩ := List.forall_mem_cons.mp ht
    obtain ⟨hlt, -⟩ := exists_digitChar hc
    have hrest := ih ht
    have hlead : (natural [c] + 1) * 10 ^ t.length ≤ 10 * 10 ^ t.length :=
      Nat.mul_le_mul_right _ hlt
    rw [natural_cons, List.length_cons, Nat.pow_succ]
    rw [Nat.succ_mul] at hlead
    omega

/-- What does not begin with a zero is as large as its length says. -/
theorem le_natural (ht : ∀ d ∈ c :: t, d.isDigit) (hc : c ≠ '0') :
    10 ^ t.length ≤ natural (c :: t) := by
  have hpos : 0 < natural [c] := by
    refine Nat.pos_of_ne_zero ?_
    intro h
    exact hc (natural_digit_eq_zero (ht c List.mem_cons_self) h)
  rw [natural_cons]
  exact (Nat.le_mul_of_pos_left _ hpos).trans (Nat.le_add_right _ _)

/-- Digits without a zero at their beginning are those of their number. -/
theorem toDigits_natural (hw : IsWhole w) : Nat.toDigits 10 (natural w) = w := by
  induction w using List.reverseRecOn with
  | nil => exact absurd rfl hw.digits.1
  | append_singleton r c ih =>
    obtain ⟨hlt, hchar⟩ := exists_digitChar (hw.digits.2 c (by simp))
    have hlast : Nat.toDigits 10 (natural [c]) = [c] := by
      rw [Nat.toDigits_of_lt_base hlt, hchar]
    cases r with
    | nil => exact hlast
    | cons b r =>
      have hb : b ≠ '0' := by
        rintro rfl
        simpa using hw.leading rfl
      have hr : ∀ d ∈ b :: r, d.isDigit := fun d hd => hw.digits.2 d (List.mem_append_left _ hd)
      have hwhole : IsWhole (b :: r) := isWhole_of_head? ⟨by simp, hr⟩ (by simpa using hb)
      have hpos : 0 < natural (b :: r) := (Nat.pow_pos (by decide)).trans_le (le_natural hr hb)
      have hsplit : natural (b :: r ++ [c]) = 10 * natural (b :: r) + natural [c] := by
        rw [natural_append, Nat.mul_comm]
        rfl
      rw [hsplit, ← Nat.toDigits_append_toDigits (by decide) hpos hlt, ih hwhole, hlast]

/-- As many digits of the same number are the same digits. -/
theorem eq_of_natural_eq (ht : ∀ c ∈ t, c.isDigit) (hu : ∀ c ∈ u, c.isDigit)
    (hlen : t.length = u.length) (h : natural t = natural u) : t = u := by
  have hone {v : List Char} (hv : ∀ c ∈ v, c.isDigit) : IsWhole ('1' :: v) :=
    isWhole_of_head? ⟨by simp, List.forall_mem_cons.mpr ⟨by decide, hv⟩⟩ (by simp)
  have heq : natural ('1' :: t) = natural ('1' :: u) := by
    rw [natural_cons, natural_cons '1' u, hlen, h]
  have hcons : '1' :: t = '1' :: u := by
    rw [← toDigits_natural (hone ht), heq, toDigits_natural (hone hu)]
  exact List.cons.inj hcons |>.2

/-! ### What is read -/

/-- The number that digits around a point denote. -/
def amount (w f : List Char) : ℚ := natural w + natural f / 10 ^ f.length

/-- The power that a sign and digits denote. -/
def power (s : Char) (p : List Char) : Int := if s = '-' then -(natural p : Int) else natural p

theorem natural?_of_isDigits (ht : IsDigits t) : natural? t = some (natural t) := if_pos ht

theorem ne_of_isDigit (hc : c.isDigit) (hd : d.isDigit = false) : c ≠ d := by
  rintro rfl
  rw [hc] at hd
  cases hd

theorem dropWhile_mark (ht : ∀ c ∈ t, c ≠ d) : (t ++ d :: u).dropWhile (· != d) = d :: u := by
  rw [List.dropWhile_append_of_pos (by simpa using ht), List.dropWhile_cons_of_neg (by simp)]

theorem takeWhile_mark (ht : ∀ c ∈ t, c ≠ d) : (t ++ d :: u).takeWhile (· != d) = t := by
  rw [List.takeWhile_append_of_pos (by simpa using ht), List.takeWhile_cons_of_neg (by simp),
    List.append_nil]

theorem dropWhile_unmarked (ht : ∀ c ∈ t, c ≠ d) : t.dropWhile (· != d) = [] := by
  rw [List.dropWhile_eq_nil_iff]
  simpa using ht

/-- Digits around a point denote the number that they denote without it, so many places down. -/
theorem amount_eq (w f : List Char) : amount w f = natural (w ++ f) * 10 ^ (-(f.length : Int)) := by
  rw [amount, natural_append, zpow_neg, zpow_natCast]
  push_cast
  field_simp

theorem positional?_pointed (hw : IsDigits w) (hf : ∀ c ∈ f, c.isDigit) :
    positional? (pointed w f) = some (amount w f) := by
  have hpoint : ∀ c ∈ w, c ≠ '.' := fun c hc => ne_of_isDigit (hw.2 c hc) rfl
  unfold positional? pointed
  split_ifs with hnil
  · rw [dropWhile_unmarked hpoint, hnil]
    simp [natural?_of_isDigits hw, amount, natural]
  · rw [dropWhile_mark hpoint, takeWhile_mark hpoint]
    simp [natural?_of_isDigits hw, natural?_of_isDigits ⟨hnil, hf⟩, amount]

theorem ne_of_mem_pointed (hw : IsDigits w) (hf : ∀ c ∈ f, c.isDigit) :
    ∀ c ∈ pointed w f, c ≠ 'e' := by
  intro c hc
  unfold pointed at hc
  split_ifs at hc with hnil
  · exact ne_of_isDigit (hw.2 c hc) rfl
  · rcases List.mem_append.mp hc with hc | hc
    · exact ne_of_isDigit (hw.2 c hc) rfl
    · rcases List.mem_cons.mp hc with rfl | hc
      · decide
      · exact ne_of_isDigit (hf c hc) rfl

theorem value?_pointed (hw : IsDigits w) (hf : ∀ c ∈ f, c.isDigit) :
    value? (pointed w f) = some (amount w f) := by
  rw [value?, dropWhile_unmarked (ne_of_mem_pointed hw hf)]
  exact positional?_pointed hw hf

theorem exponent?_cons (hp : IsDigits p) (hs : s = '+' ∨ s = '-') :
    exponent? (s :: p) = some (power s p) := by
  rcases hs with rfl | rfl
  · simp [exponent?, natural?_of_isDigits hp, power]
  · simp [exponent?, natural?_of_isDigits hp, power]

theorem value?_powered (hw : IsDigits w) (hf : ∀ c ∈ f, c.isDigit) (hp : IsDigits p)
    (hs : s = '+' ∨ s = '-') :
    value? (pointed w f ++ 'e' :: s :: p) = some (amount w f * 10 ^ power s p) := by
  have hmark := ne_of_mem_pointed hw hf
  rw [value?, dropWhile_mark hmark, takeWhile_mark hmark]
  simp [positional?_pointed hw hf, exponent?_cons hp hs]

/-! ### One text for a number -/

theorem amount_bounds (hf : ∀ c ∈ f, c.isDigit) :
    (natural w : ℚ) ≤ amount w f ∧ amount w f < natural w + 1 := by
  have hlt : (natural f : ℚ) < 10 ^ f.length := by exact_mod_cast natural_lt hf
  have hfrac : (natural f : ℚ) / 10 ^ f.length < 1 := (div_lt_one (by positivity)).mpr hlt
  have hpos : (0 : ℚ) ≤ natural f / 10 ^ f.length := by positivity
  rw [amount]
  constructor <;> linarith

/-- Behind a point, what does not end with a zero is not longer than what denotes the same. -/
theorem length_le_of_eq (hf : ∀ c ∈ f, c.isDigit) (hlast : f.getLast? ≠ some '0')
    (h : natural f' * 10 ^ f.length = natural f * 10 ^ f'.length) : f.length ≤ f'.length := by
  by_contra hlt
  obtain ⟨k, hk⟩ := Nat.exists_eq_add_of_lt (Nat.lt_of_not_le hlt)
  have hmul : natural f = 10 * (natural f' * 10 ^ k) := by
    have hpow : 10 ^ f.length = 10 * 10 ^ k * 10 ^ f'.length := by
      rw [hk]
      ring
    rw [hpow, ← Nat.mul_assoc] at h
    have hcancel := Nat.eq_of_mul_eq_mul_right (Nat.pow_pos (by decide)) h
    rw [← hcancel]
    ring
  have hne : f ≠ [] := by
    rintro rfl
    simp at hk
  obtain ⟨g, c, rfl⟩ := (List.eq_nil_or_concat f).resolve_left hne
  rw [List.concat_eq_append] at *
  have hc : c.isDigit := hf c (by simp)
  obtain ⟨hten, -⟩ := exists_digitChar hc
  have hsplit : natural (g ++ [c]) = natural g * 10 + natural [c] := natural_append g [c]
  have hzero : natural [c] = 0 := by omega
  exact hlast (by simp [natural_digit_eq_zero hc hzero])

theorem amount_inj (hw : IsWhole w) (hw' : IsWhole w') (hf : IsFraction f) (hf' : IsFraction f')
    (h : amount w f = amount w' f') : w = w' ∧ f = f' := by
  obtain ⟨hlow, hhigh⟩ := amount_bounds (w := w) hf.digits
  obtain ⟨hlow', hhigh'⟩ := amount_bounds (w := w') hf'.digits
  have hwhole : natural w = natural w' := by
    have h₁ : (natural w : ℚ) < natural w' + 1 := by linarith
    have h₂ : (natural w' : ℚ) < natural w + 1 := by linarith
    have h₁ : natural w < natural w' + 1 := by exact_mod_cast h₁
    have h₂ : natural w' < natural w + 1 := by exact_mod_cast h₂
    omega
  have hfrac : (natural f : ℚ) * 10 ^ f'.length = natural f' * 10 ^ f.length := by
    rw [amount, amount, hwhole, add_right_inj, div_eq_div_iff (by positivity) (by positivity)] at h
    exact h
  have hfrac : natural f * 10 ^ f'.length = natural f' * 10 ^ f.length := by exact_mod_cast hfrac
  have hlen : f.length = f'.length := by
    have h₁ := length_le_of_eq hf.digits hf.last hfrac.symm
    have h₂ := length_le_of_eq hf'.digits hf'.last hfrac
    omega
  rw [hlen] at hfrac
  have hnat : natural f = natural f' :=
    Nat.eq_of_mul_eq_mul_right (Nat.pow_pos (by decide)) hfrac
  refine ⟨?_, eq_of_natural_eq hf.digits hf'.digits hlen hnat⟩
  rw [← toDigits_natural hw, hwhole, toDigits_natural hw']

theorem IsFixed.unique (ht : IsFixed t) (hu : IsFixed u) (h : value? t = value? u) : t = u := by
  obtain ⟨hw, hf⟩ := ht
  obtain ⟨hw', hf'⟩ := hu
  rw [value?_pointed hw.digits hf.digits, value?_pointed hw'.digits hf'.digits] at h
  obtain ⟨rfl, rfl⟩ := amount_inj hw hw' hf hf' (Option.some.inj h)
  rfl

/-- A number lies between two neighbouring powers of ten once. -/
theorem exponent_unique (hlow : (10 : ℚ) ^ e ≤ q) (hhigh : q < 10 ^ (e + 1))
    (hlow' : (10 : ℚ) ^ e' ≤ q) (hhigh' : q < 10 ^ (e' + 1)) : e = e' := by
  have h₁ : e < e' + 1 :=
    (zpow_lt_zpow_iff_right₀ (by norm_num : (1 : ℚ) < 10)).mp (hlow.trans_lt hhigh')
  have h₂ : e' < e + 1 :=
    (zpow_lt_zpow_iff_right₀ (by norm_num : (1 : ℚ) < 10)).mp (hlow'.trans_lt hhigh)
  omega

/-- What one digit that is no zero begins lies between one and ten. -/
theorem scaled_bounds (hc : c.isDigit) (hne : c ≠ '0') (hf : ∀ d ∈ f, d.isDigit) (e : Int) :
    (10 : ℚ) ^ e ≤ amount [c] f * 10 ^ e ∧ amount [c] f * 10 ^ e < 10 ^ (e + 1) := by
  obtain ⟨hlow, hhigh⟩ := amount_bounds (w := [c]) hf
  obtain ⟨hten, -⟩ := exists_digitChar hc
  have hpos : 1 ≤ natural [c] := by
    refine Nat.one_le_iff_ne_zero.mpr ?_
    intro h
    exact hne (natural_digit_eq_zero hc h)
  have hpos : (1 : ℚ) ≤ natural [c] := by exact_mod_cast hpos
  have hten : (natural [c] : ℚ) + 1 ≤ 10 := by exact_mod_cast hten
  have hpow : (0 : ℚ) < 10 ^ e := by positivity
  constructor
  · exact le_mul_of_one_le_left hpow.le (by linarith)
  · rw [zpow_add_one₀ (by norm_num), mul_comm ((10 : ℚ) ^ e)]
    exact mul_lt_mul_of_pos_right (by linarith) hpow

theorem IsPower.length_le (hp : IsPower p) (hp' : IsPower p') (h : natural p = natural p') :
    p.length ≤ p'.length := by
  by_contra hlt
  have htwo := hp'.two
  cases p with
  | nil => exact hlt (Nat.zero_le _)
  | cons c r =>
    have hc : c ≠ '0' := by
      rintro rfl
      have := hp.leading rfl
      omega
    have hlow := le_natural hp.digits.2 hc
    have hhigh := natural_lt hp'.digits.2
    have hpow : 10 ^ p'.length ≤ 10 ^ r.length := by
      refine Nat.pow_le_pow_right (by decide) ?_
      rw [List.length_cons] at hlt
      omega
    omega

theorem power_inj (hp : IsPower p) (hp' : IsPower p') (hs : s = '+' ∨ s = '-' ∧ natural p ≠ 0)
    (hd : d = '+' ∨ d = '-' ∧ natural p' ≠ 0) (h : power s p = power d p') : s = d ∧ p = p' := by
  have hboth : s = d ∧ natural p = natural p' := by
    rcases hs with rfl | ⟨rfl, hn⟩ <;> rcases hd with rfl | ⟨rfl, hn'⟩ <;>
      simp [power] at h ⊢ <;> omega
  obtain ⟨hsign, hnat⟩ := hboth
  refine ⟨hsign, eq_of_natural_eq hp.digits.2 hp'.digits.2 ?_ hnat⟩
  exact Nat.le_antisymm (hp.length_le hp' hnat) (hp'.length_le hp hnat.symm)

theorem IsScientific.unique (ht : IsScientific t) (hu : IsScientific u) (h : value? t = value? u) :
    t = u := by
  obtain @⟨c, f, s, p, hc, hne, hf, hp, hs⟩ := ht
  obtain @⟨c', f', s', p', hc', hne', hf', hp', hs'⟩ := hu
  have hw := isWhole_digit hc
  have hw' := isWhole_digit hc'
  rw [value?_powered hw.digits hf.digits hp.digits (hs.imp_right And.left),
    value?_powered hw'.digits hf'.digits hp'.digits (hs'.imp_right And.left),
    Option.some.injEq] at h
  obtain ⟨hlow, hhigh⟩ := scaled_bounds hc hne hf.digits (power s p)
  obtain ⟨hlow', hhigh'⟩ := scaled_bounds hc' hne' hf'.digits (power s' p')
  rw [← h] at hlow' hhigh'
  have hpower : power s p = power s' p' := exponent_unique hlow hhigh hlow' hhigh'
  have hamount : amount [c] f = amount [c'] f' := by
    rw [hpower] at h
    exact mul_right_cancel₀ (zpow_ne_zero _ (by norm_num)) h
  obtain ⟨hfirst, rfl⟩ := amount_inj hw hw' hf hf' hamount
  obtain ⟨rfl, rfl⟩ := power_inj hp hp' hs hs' hpower
  rw [hfirst]

/-- A number has one text in each notation. -/
theorem Notations.unique {fixed scientific fixed' scientific' : List Char}
    (h : Notations q fixed scientific) (h' : Notations q fixed' scientific') :
    fixed = fixed' ∧ scientific = scientific' := by
  constructor
  · exact h.isFixed.unique h'.isFixed (h.fixed_value.trans h'.fixed_value.symm)
  · exact h.isScientific.unique h'.isScientific (h.scientific_value.trans h'.scientific_value.symm)

/-! ### The shorter text -/

/-- The shorter of two texts; the first if they are as long. -/
def shorter (t u : List Char) : List Char := if t.length ≤ u.length then t else u

theorem shorter_cases {P : List Char → Prop} (ht : P t) (hu : P u) : P (shorter t u) := by
  unfold shorter
  split
  · exact ht
  · exact hu

theorem exists_digit_pointed (hw : IsDigits w) (f : List Char) :
    ∃ c r, pointed w f = c :: r ∧ c.isDigit := by
  obtain ⟨c, r, rfl⟩ := List.exists_cons_of_ne_nil hw.1
  have hc : c.isDigit := hw.2 c List.mem_cons_self
  unfold pointed
  split
  · exact ⟨c, r, rfl, hc⟩
  · exact ⟨c, _, List.cons_append, hc⟩

/-- Neither text begins with a sign. -/
theorem Notations.exists_digit {fixed scientific : List Char} (h : Notations q fixed scientific) :
    ∃ c r, shorter fixed scientific = c :: r ∧ c.isDigit := by
  refine shorter_cases (P := fun t => ∃ c r, t = c :: r ∧ c.isDigit) ?_ ?_
  · obtain @⟨w, f, hw, hf⟩ := h.isFixed
    exact exists_digit_pointed hw.digits f
  · obtain @⟨c, f, s, p, hc, hne, hf, hp, hs⟩ := h.isScientific
    obtain ⟨d, r, hd, hdigit⟩ := exists_digit_pointed (isWhole_digit hc).digits f
    exact ⟨d, _, by rw [hd, List.cons_append], hdigit⟩

theorem Notations.shorter_value {fixed scientific : List Char} (h : Notations q fixed scientific) :
    value? (shorter fixed scientific) = some q :=
  shorter_cases (P := fun t => value? t = some q) h.fixed_value h.scientific_value

end GuestRuntime.Numeral
