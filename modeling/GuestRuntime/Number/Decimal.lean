import GuestRuntime.Number.Double

/-!
Decimal texts of a finite double. `shortest` has the fewest digits that read back as the same
double, the nearest such digits, a tie going up; `significant` has a given number of digits, rounded
half to even. Both give a `Decimal`: digits and the place of the first.
-/

namespace GuestRuntime

/-- The number `digits * 10 ^ (exponent - (length of digits - 1))`, the first digit standing at
`10 ^ exponent`. -/
structure Decimal where
  digits : List Char
  exponent : Int
  deriving DecidableEq, Repr

namespace Decimal

/-- The digits without the zeros at their end. -/
def stripZeros (s : List Char) : List Char := (s.reverse.dropWhile (· == '0')).reverse

/-- The decimal `c * 10 ^ unit`, zeros at the end left out. -/
def ofScaled (c : Nat) (unit : Int) : Decimal :=
  let s := Nat.toDigits 10 c
  ⟨stripZeros s, unit + s.length - 1⟩

/-- `num / den` to `n` significant digits, half to even, all `n` digits kept. -/
def significant (n num den : Nat) : Decimal :=
  let e := decimalExponent num den
  let (a, b) := scaleTen num den (e - (n - 1))
  let c := roundHalfEven a b
  if c = pow10 n then ⟨Nat.toDigits 10 (pow10 (n - 1)), e + 1⟩ else ⟨Nat.toDigits 10 c, e⟩

/-- The two ends of the reals that round to `mantissa * 2 ^ scale`, in quarters of `2 ^ scale`. -/
def neighbours (x : Double) : Nat × Nat :=
  let m := 4 * x.mantissa
  (if x.trailing = 0 ∧ 1 < x.biased then m - 1 else m - 2, m + 2)

/-- Whether `c * 10 ^ unit` rounds to `x`. -/
def readsBack (x : Double) (unit : Int) (c : Nat) : Bool :=
  let q := x.scale - 2
  let a := c * pow10 unit.toNat * pow2 (-q).toNat
  let b := pow2 q.toNat * pow10 (-unit).toNat
  let (low, high) := neighbours x
  if x.mantissa % 2 = 0 then low * b ≤ a && a ≤ high * b else low * b < a && a < high * b

/-- The nearest of the two neighbours of `x` on the grid of `10 ^ unit` that read back. -/
def onGrid (x : Double) (unit : Int) : Option Nat :=
  let (a, b) := scaleTen x.fraction.1 x.fraction.2 unit
  let c := a / b
  match readsBack x unit c, readsBack x unit (c + 1) with
  | true, true => some (if 2 * (a % b) < b then c else c + 1)
  | true, false => some c
  | false, true => some (c + 1)
  | false, false => none

/-- The first grid, from the coarsest, with a decimal that reads back; seventeen digits always
do. -/
def search (x : Double) (e : Int) : Nat → Nat → Decimal
  | n, 0 => significant n x.fraction.1 x.fraction.2
  | n, k + 1 =>
    match onGrid x (e - (n - 1)) with
    | some c => ofScaled c (e - (n - 1))
    | none => search x e (n + 1) k

/-- The fewest digits that read back as the positive double. -/
def shortest (x : Double) : Decimal :=
  search x (decimalExponent x.fraction.1 x.fraction.2) 1 17

def zeros (n : Nat) : List Char := List.replicate n '0'

/-- Positional notation: no exponent, no point that nothing follows. -/
def fixed (d : Decimal) : List Char :=
  if d.exponent < 0 then '0' :: '.' :: zeros (-d.exponent - 1).toNat ++ d.digits
  else
    let whole := d.exponent.toNat + 1
    if d.digits.length ≤ whole then d.digits ++ zeros (whole - d.digits.length)
    else d.digits.take whole ++ '.' :: d.digits.drop whole

/-- At least two digits. -/
def twoDigits (n : Nat) : List Char :=
  if n < 10 then '0' :: Nat.toDigits 10 n else Nat.toDigits 10 n

/-- One digit, the others behind a point, a signed exponent of at least two digits. -/
def scientific (d : Decimal) : List Char :=
  let tail := match d.digits.drop 1 with
    | [] => []
    | r => '.' :: r
  d.digits.take 1 ++ tail ++ 'e' :: (if d.exponent < 0 then '-' else '+') ::
    twoDigits d.exponent.natAbs

end Decimal

/-- What a number looks like inside the guest's own text: shortest, positional, `-0` kept. -/
def Double.plainText (x : Double) : String :=
  if x.isNaN then "NaN"
  else
    let body := if x.isInfinite then ['i', 'n', 'f'] else if x.isZero then ['0'] else
      (Decimal.shortest x).fixed
    String.ofList (if x.isNegative then '-' :: body else body)

/-- Digits kept where a number crosses to the host. -/
def Double.hostDigits : Nat := 15

/-- A finite number as the host shows it: fifteen digits, zeros at the end left out, positional
unless the scientific form is shorter. -/
def Double.roundedText (x : Double) : String :=
  if x.isZero then "0"
  else
    let d := Decimal.significant Double.hostDigits x.fraction.1 x.fraction.2
    let d : Decimal := ⟨Decimal.stripZeros d.digits, d.exponent⟩
    let body := if d.fixed.length ≤ d.scientific.length then d.fixed else d.scientific
    String.ofList (if x.isNegative then '-' :: body else body)

end GuestRuntime
