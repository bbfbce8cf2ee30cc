import GuestRuntime.Number.Rounding

/-!
Double precision numbers, kept as their bits: a guest tells its missing value from other NaNs by
bits, and a sign is changed on every NaN as well. Reading a fraction of naturals as the nearest
double, and dropping to an integer, are exact arithmetic on the bits; only the four operations are
the machine's.
-/

namespace GuestRuntime

structure Double where
  bits : UInt64
  deriving DecidableEq, Repr

namespace Double

def toFloat (x : Double) : Float := Float.ofBits x.bits

def ofFloat (x : Float) : Double := ⟨x.toBits⟩

def isNegative (x : Double) : Bool := pow2 63 ≤ x.bits.toNat

/-- The eleven exponent bits. -/
def biased (x : Double) : Nat := x.bits.toNat / pow2 52 % 2048

/-- The fifty-two bits below the leading one. -/
def trailing (x : Double) : Nat := x.bits.toNat % pow2 52

def isNaN (x : Double) : Bool := x.biased == 2047 && x.trailing != 0

def isInfinite (x : Double) : Bool := x.biased == 2047 && x.trailing == 0

def isZero (x : Double) : Bool := x.biased == 0 && x.trailing == 0

/-- The significand of a finite double: its magnitude is `mantissa * 2 ^ scale`. -/
def mantissa (x : Double) : Nat := if x.biased = 0 then x.trailing else pow2 52 + x.trailing

def scale (x : Double) : Int := (max x.biased 1 : Int) - 1075

/-- The magnitude of a finite double as a fraction of naturals. -/
def fraction (x : Double) : Nat × Nat :=
  if 0 ≤ x.scale then (x.mantissa * pow2 x.scale.toNat, 1) else (x.mantissa, pow2 (-x.scale).toNat)

/-- The scale of the double nearest to a positive fraction: fifty-three bits, or fewer at the
bottom of the range. -/
def scaleOf (num den : Nat) : Int :=
  let e : Int := (num.log2 : Int) - den.log2 - 53
  let q := if 0 ≤ e then num / (den * pow2 e.toNat) else num * pow2 (-e).toNat / den
  max (if q < pow2 53 then e else e + 1) (-1074)

/-- The double nearest to `num / den`, a half going to the even significand; infinity above the
range. -/
def ofRatio (num den : Nat) : Double :=
  if num = 0 then ⟨0⟩
  else
    let e := scaleOf num den
    let m := if 0 ≤ e then roundHalfEven num (den * pow2 e.toNat)
      else roundHalfEven (num * pow2 (-e).toNat) den
    let b := (e + 1074).toNat * pow2 52 + m
    ⟨UInt64.ofNat (min b (2047 * pow2 52))⟩

/-- The opposite sign, on a NaN as well. -/
def negate (x : Double) : Double :=
  ⟨UInt64.ofNat (if x.isNegative then x.bits.toNat - pow2 63 else x.bits.toNat + pow2 63)⟩

def ofNat (n : Nat) : Double := ofRatio n 1

def ofInt (n : Int) : Double := if n < 0 then negate (ofNat n.natAbs) else ofNat n.natAbs

/-- The magnitude without its fractional digits. -/
def floorNat (x : Double) : Nat := x.fraction.1 / x.fraction.2

/-- Toward zero and into `0 … top`; a NaN and every negative number give 0. -/
def clampNat (top : Nat) (x : Double) : Nat :=
  if x.isNaN || x.isNegative then 0 else if x.isInfinite then top else min x.floorNat top

def toByte (x : Double) : UInt8 := UInt8.ofNat (x.clampNat 255)

/-- True of both zeros, of no NaN. -/
def isNonnegative (x : Double) : Bool := !x.isNaN && (!x.isNegative || x.isZero)

instance : Neg Double := ⟨negate⟩
instance : Add Double := ⟨fun x y => ofFloat (x.toFloat + y.toFloat)⟩
instance : Sub Double := ⟨fun x y => ofFloat (x.toFloat - y.toFloat)⟩
instance : Mul Double := ⟨fun x y => ofFloat (x.toFloat * y.toFloat)⟩
instance : Div Double := ⟨fun x y => ofFloat (x.toFloat / y.toFloat)⟩

/-- The missing value's mark: a NaN with 1954 in its low half. -/
def isMissing (x : Double) : Bool := x.isNaN && x.bits.toNat % pow2 32 == 1954

end Double
end GuestRuntime
