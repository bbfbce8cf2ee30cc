import GuestRuntime.Text.Utf8

/-!
NUL-terminated text, the form in which text crosses to a guest: it ends at its first zero byte, and
text that holds one cannot be sent.
-/

namespace GuestRuntime.Terminated

/-- What a reader sees of the bytes: all before the first zero. -/
def upToNul (b : Bytes) : Bytes := b.takeWhile (· != 0)

/-- Where the first zero stands, if there is one. -/
def nulAt? (b : Bytes) : Option Nat := b.findIdx? (· == 0)

/-- The text as a guest receives it, or where its first zero forbids that. -/
def ofText (s : String) : Except Nat Bytes :=
  match nulAt? (Utf8.encode s) with
  | none => .ok (Utf8.encode s)
  | some i => .error i

/-- All arguments, or where the first zero stands in the first that has one. -/
def ofTexts : List String → Except Nat (List Bytes)
  | [] => .ok []
  | s :: r =>
    match ofText s with
    | .error i => .error i
    | .ok b =>
      match ofTexts r with
      | .error i => .error i
      | .ok bs => .ok (b :: bs)

/-- The text with its zeros left out. -/
def withoutNul (s : String) : Bytes := Utf8.encodeChars (s.toList.filter (· != '\x00'))

end GuestRuntime.Terminated
