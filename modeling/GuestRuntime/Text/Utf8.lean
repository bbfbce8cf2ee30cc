/-!
UTF-8. `encode` writes text as bytes; `decodeLossy` reads any bytes, and every maximal part that
begins a character and does not finish it becomes one U+FFFD. Reading is a fold: between characters,
or some continuation bytes owed, the next of them in a known range. Main statement, in the lemmas
beside this file: `decodeLossy (encode s) = s`.
-/

namespace GuestRuntime

abbrev Bytes := List UInt8

namespace Utf8

/-- What stands for a part that is no character. -/
def replacement : Char := '\uFFFD'

/-- The bytes of one scalar value, by its size. -/
def encodeScalar (n : Nat) : Bytes :=
  if n < 0x80 then [UInt8.ofNat n]
  else if n < 0x800 then [UInt8.ofNat (0xC0 + n / 64), UInt8.ofNat (0x80 + n % 64)]
  else if n < 0x10000 then
    [UInt8.ofNat (0xE0 + n / 4096), UInt8.ofNat (0x80 + n / 64 % 64), UInt8.ofNat (0x80 + n % 64)]
  else
    [UInt8.ofNat (0xF0 + n / 262144), UInt8.ofNat (0x80 + n / 4096 % 64),
      UInt8.ofNat (0x80 + n / 64 % 64), UInt8.ofNat (0x80 + n % 64)]

def encodeChars (s : List Char) : Bytes := s.flatMap fun c => encodeScalar c.toNat

def encode (s : String) : Bytes := encodeChars s.toList

/-- A character begun: the bytes still owed, the range of the next one, the bits so far. -/
structure Pending where
  owed : Nat
  low : Nat
  high : Nat
  bits : Nat

/-- What a byte does between characters: it is one, it begins one, or it can do neither. -/
inductive Lead
  | whole (c : Char)
  | begun (p : Pending)
  | stray

/-- The lead bytes; the range of the second byte keeps out overlong forms and surrogates. -/
def lead (b : Nat) : Lead :=
  if b < 0x80 then .whole (Char.ofNat b)
  else if b < 0xC2 then .stray
  else if b < 0xE0 then .begun ⟨1, 0x80, 0xBF, b - 0xC0⟩
  else if b < 0xF0 then
    .begun ⟨2, if b = 0xE0 then 0xA0 else 0x80, if b = 0xED then 0x9F else 0xBF, b - 0xE0⟩
  else if b < 0xF5 then
    .begun ⟨3, if b = 0xF0 then 0x90 else 0x80, if b = 0xF4 then 0x8F else 0xBF, b - 0xF0⟩
  else .stray

/-- The characters of the bytes, read from a character begun or from between two. -/
def decodeFrom : Option Pending → Bytes → List Char
  | none, [] => []
  | some _, [] => [replacement]
  | none, b :: r =>
    match lead b.toNat with
    | .whole c => c :: decodeFrom none r
    | .begun p => decodeFrom (some p) r
    | .stray => replacement :: decodeFrom none r
  | some p, b :: r =>
    if p.low ≤ b.toNat ∧ b.toNat ≤ p.high then
      if p.owed = 1 then Char.ofNat (p.bits * 64 + (b.toNat - 0x80)) :: decodeFrom none r
      else decodeFrom (some ⟨p.owed - 1, 0x80, 0xBF, p.bits * 64 + (b.toNat - 0x80)⟩) r
    else
      replacement ::
        match lead b.toNat with
        | .whole c => c :: decodeFrom none r
        | .begun p => decodeFrom (some p) r
        | .stray => replacement :: decodeFrom none r

def decodeChars (b : Bytes) : List Char := decodeFrom none b

def decodeLossy (b : Bytes) : String := String.ofList (decodeChars b)

/-- The text, if the bytes are UTF-8: exactly when reading and writing give them back. -/
def decode? (b : Bytes) : Option String :=
  let s := decodeChars b
  if encodeChars s = b then some (String.ofList s) else none

end Utf8

/-- The hexadecimal digits of a natural number below sixteen, in lower case. -/
def hexDigit (n : Nat) : Char := Char.ofNat (if n < 10 then 48 + n else 87 + n)

/-- Two digits a byte. -/
def hexOfBytes (b : Bytes) : String :=
  String.ofList (b.flatMap fun x => [hexDigit (x.toNat / 16), hexDigit (x.toNat % 16)])

/-- A number in hexadecimal, without leading zeros. -/
def hexOfNat (n : Nat) : String := String.ofList (Nat.toDigits 16 n)

end GuestRuntime
