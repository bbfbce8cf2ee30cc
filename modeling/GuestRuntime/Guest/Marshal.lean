import GuestRuntime.Guest.Dialogue
import GuestRuntime.Number.Decimal

/-!
Marshaling: a rooted object becomes a value of the host's. Text is the text of a character scalar or
of the first element of a string vector, raw vectors are copied whole, and a vector of one number or
truth value becomes its text; every other object stays where it is.
-/

namespace GuestRuntime

/-- The text of a truth value. -/
def logicalText (b : Int) : String :=
  if b = missingInteger then "NA" else if b = 0 then "FALSE" else "TRUE"

def integerText (i : Int) : String := if i = missingInteger then "NA" else toString i

namespace Dialogue

/-- The text of a character scalar; a null pointer has none. -/
def charsText (x : Obj) : Dialogue String := do
  match ← call (.chars x) with
  | none => return ""
  | some b => return Utf8.decodeLossy b

/-- The text of a number; only of a NaN is it asked whether it is the missing value. -/
def realText (x : Double) : Dialogue String := do
  if x.isNaN then
    if ← call (.isMissing x) then return "NA" else return "NaN"
  else if x.isInfinite then
    return if x.isNegative then "-Inf" else "Inf"
  else
    return x.roundedText

/-- Whether the object has exactly one element. -/
def single (x : Obj) : Dialogue Bool := return (← call (.length x)) == 1

/-- What the host keeps of an object, which must be rooted meanwhile. -/
def marshal (x : Obj) : Dialogue HostValue := do
  let kind ← call (.kindOf x)
  if kind = Kind.chars then
    return .text (← charsText x)
  else if kind = Kind.strings then
    if 0 < (← call (.length x)) then
      return .text (← charsText (← call (.stringElement x 0)))
    else
      return .object x
  else if kind = Kind.bytes then
    let n := (← call (.length x)).toNat
    if n = 0 then
      return .bytes []
    else
      return .bytes ((← call (.bytes x)).take n)
  else if kind = Kind.reals then
    if ← single x then
      return .text (← realText ((← call (.reals x)).headD ⟨0⟩))
    else
      return .object x
  else if kind = Kind.integers then
    if ← single x then
      return .text (integerText ((← call (.integers x)).headD 0))
    else
      return .object x
  else if kind = Kind.logicals then
    if ← single x then
      return .text (logicalText ((← call (.logicals x)).headD 0))
    else
      return .object x
  else
    return .object x

end Dialogue
end GuestRuntime
