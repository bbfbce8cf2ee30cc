import GuestRuntime.Text.Quoted

/-!
What crosses between host and guest: addresses of the guest's objects, the kinds an object can have,
and the values a host keeps.
-/

namespace GuestRuntime

/-- The address of a guest's object; only the guest that gave it knows what is there. -/
structure Obj where
  address : Nat
  deriving DecidableEq, Repr, Inhabited

namespace Obj

/-- No object. -/
def null : Obj := ⟨0⟩

/-- An address as the journal shows it. -/
def shown (x : Obj) : String := "Sexp(0x" ++ hexOfNat x.address ++ ")"

end Obj

/-- Kinds of objects, by number. -/
abbrev Kind := Nat

namespace Kind

def nil : Kind := 0
def environment : Kind := 4
def language : Kind := 6
def chars : Kind := 9
def logicals : Kind := 10
def integers : Kind := 13
def reals : Kind := 14
def strings : Kind := 16
def expressions : Kind := 20
def bytes : Kind := 24

end Kind

/-- The integer, and the logical value, that stands for a missing one. -/
def missingInteger : Int := -2147483648

/-- What an evaluation leaves with the host. -/
inductive HostValue
  /-- One piece of text, or one number as text. -/
  | text (s : String)
  /-- What has no form of the host's own; it is not rooted. -/
  | object (x : Obj)
  /-- A copy of a raw vector. -/
  | bytes (b : Bytes)
  deriving DecidableEq, Repr

namespace HostValue

def asText : HostValue → Option String
  | text s => some s
  | _ => none

def asBytes : HostValue → Option Bytes
  | bytes b => some b
  | _ => none

def asObject : HostValue → Option Obj
  | object x => some x
  | _ => none

/-- A value as the journal shows it. -/
def shown : HostValue → String
  | text s => "Text(" ++ Text.quoted s ++ ")"
  | object x => "Handle(" ++ x.shown ++ ")"
  | bytes b => "Bytes([" ++ ", ".intercalate (b.map fun x => toString x.toNat) ++ "])"

end HostValue
end GuestRuntime
