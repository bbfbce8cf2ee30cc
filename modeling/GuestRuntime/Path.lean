import GuestRuntime.Text.Utf8

/-!
Paths: bytes that need not be text. A path is shown as text with every part that is none replaced.
-/

namespace GuestRuntime

structure Path where
  bytes : Bytes
  deriving DecidableEq, Repr, Inhabited

namespace Path

def ofString (s : String) : Path := ⟨Utf8.encode s⟩

def display (p : Path) : String := Utf8.decodeLossy p.bytes

def slash : UInt8 := 47

/-- One path below another; an absolute one stands alone. -/
def join (p q : Path) : Path :=
  if q.bytes.head? = some slash then q
  else if p.bytes.getLast? = some slash ∨ p.bytes = [] then ⟨p.bytes ++ q.bytes⟩
  else ⟨p.bytes ++ slash :: q.bytes⟩

end Path
end GuestRuntime
