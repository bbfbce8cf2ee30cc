import GuestRuntime.Text.Class.Alphabetic
import GuestRuntime.Text.Class.Numeric
import GuestRuntime.Text.Class.GraphemeExtend
import GuestRuntime.Text.Class.Unprintable

/-!
Character classes. Each is decided at once for ASCII and looked up in a table of ranges beyond it.
-/

namespace GuestRuntime.Text

/-- Whether a code point lies in one of the ranges. -/
def inRanges (t : Array (Nat × Nat)) (n : Nat) : Bool := t.any fun r => r.1 ≤ n && n ≤ r.2

/-- The Unicode property Alphabetic. -/
def isAlphabetic (c : Char) : Bool :=
  if c.toNat < 128 then c.isAlpha else inRanges alphabeticRanges c.toNat

/-- The Unicode categories of numbers. -/
def isNumeric (c : Char) : Bool :=
  if c.toNat < 128 then c.isDigit else inRanges numericRanges c.toNat

def isAlphanumeric (c : Char) : Bool := isAlphabetic c || isNumeric c

/-- Whether a character joins the one before it. -/
def extendsGrapheme (c : Char) : Bool :=
  128 ≤ c.toNat && inRanges graphemeExtendRanges c.toNat

/-- Whether a character shows itself; of all blanks only the space does. -/
def isPrintable (c : Char) : Bool :=
  if c.toNat < 128 then 32 ≤ c.toNat && c.toNat != 127 else !inRanges unprintableRanges c.toNat

end GuestRuntime.Text
