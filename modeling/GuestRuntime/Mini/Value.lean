import GuestRuntime.Guest.Object
import GuestRuntime.Mini.Expr
import GuestRuntime.Number.Decimal
import GuestRuntime.Text.Terminated

/-!
Values of the mini guest, which are also its objects. Strings are NUL-terminated bytes; a missing
integer or truth value is the least integer.
-/

namespace GuestRuntime.Mini

inductive Value
  | nil
  | env
  | chars (text : Bytes)
  | strings (elements : List Bytes)
  | bytes (elements : Bytes)
  | reals (elements : List Double)
  | ints (elements : List Int)
  | lgls (elements : List Int)
  | exprs (elements : List Expr)
  | lang (e : Expr)
  deriving Repr, Inhabited

namespace Value

def kind : Value → Kind
  | nil => Kind.nil
  | env => Kind.environment
  | chars _ => Kind.chars
  | strings _ => Kind.strings
  | bytes _ => Kind.bytes
  | reals _ => Kind.reals
  | ints _ => Kind.integers
  | lgls _ => Kind.logicals
  | exprs _ => Kind.expressions
  | lang _ => Kind.language

def length : Value → Nat
  | nil => 0
  | env => 0
  | chars b => b.length
  | strings v => v.length
  | bytes v => v.length
  | reals v => v.length
  | ints v => v.length
  | lgls v => v.length
  | exprs v => v.length
  | lang _ => 1

/-- One string. -/
def ofText (s : String) : Value := strings [Terminated.withoutNul s]

def ofTexts (l : List String) : Value := strings (l.map Terminated.withoutNul)

/-- The elements as numbers, of the four kinds that have some. -/
def numbers? : Value → Option (List Double)
  | reals v => some v
  | ints v => some (v.map Double.ofInt)
  | lgls v => some (v.map Double.ofInt)
  | bytes v => some (v.map fun b => Double.ofNat b.toNat)
  | _ => none

/-- The elements as text; what has neither text nor numbers has no elements here. -/
def texts : Value → List String
  | strings v => v.map Utf8.decodeLossy
  | chars b => [Utf8.decodeLossy b]
  | lgls v => v.map fun b => if b = 0 then "FALSE" else "TRUE"
  | bytes v => v.map fun b => hexOfBytes [b]
  | v => (v.numbers?.getD []).map Double.plainText

/-- The elements as operands of arithmetic, which bytes are not. -/
def operands? : Value → Option (List Double)
  | bytes _ => none
  | v => v.numbers?

end Value
end GuestRuntime.Mini
