import GuestRuntime.Number.Double
import GuestRuntime.Text.Class

/-!
Tokens of the mini language. Reading them is a fold over the characters:

        between ─┬─ digit ──▶ number ── L ──▶ between
                 ├─ letter ─▶ word
                 ├─ quote ──▶ string ◀─▶ escape
                 ├─ # ──────▶ comment ── line end ──▶ between
                 └─ < ──────▶ less ── - ──▶ between

A number or a word ends at the first character that cannot continue it, which is then read as if
between tokens. A character that fits nowhere ends the reading for good; text that ends inside a
string is only incomplete.
-/

namespace GuestRuntime.Mini

inductive Token
  | num (x : Double)
  | int (n : Int)
  | str (s : String)
  | ident (name : String)
  | op (c : Char)
  | assign
  | newline
  deriving DecidableEq, Repr

/-- Why source text is no program: more could make it one, or nothing can. -/
inductive Failure
  | incomplete
  | error
  deriving DecidableEq, Repr

namespace Token

/-- Where reading stands inside a token; what was read of it is newest first. -/
inductive Mode
  | between
  | comment
  | string (quote : Char) (read : List Char)
  | escape (quote : Char) (read : List Char)
  | number (read : List Char)
  | word (read : List Char)
  | less
  deriving DecidableEq, Repr

/-- The tokens read, newest first, and where reading stands. -/
structure Scan where
  tokens : List Token
  mode : Mode
  deriving DecidableEq, Repr

def isOperator (c : Char) : Bool := ['+', '-', '*', '/', '(', ')', ','].contains c

def continuesNumber (c : Char) : Bool := c.isDigit || c == '.'

def beginsWord (c : Char) : Bool := Text.isAlphabetic c || c == '.'

def continuesWord (c : Char) : Bool := Text.isAlphanumeric c || c == '.' || c == '_'

/-- What a character behind a backslash stands for. -/
def unescape (c : Char) : Char := if c = 'n' then '\n' else if c = 't' then '\t' else c

def digitsValue (s : List Char) : Nat := s.foldl (fun n c => 10 * n + (c.toNat - 48)) 0

/-- The number that digits with at most one point denote. -/
def number? (s : List Char) : Option Double :=
  if s.count '.' ≤ 1 then
    let fraction := (s.dropWhile (· != '.')).drop 1
    some (.ofRatio (digitsValue (s.filter (· != '.'))) (pow10 fraction.length))
  else none

/-- The largest integer a literal can denote. -/
def maxInteger : Nat := 2147483647

/-- The integer that digits denote, if it is in range. -/
def integer? (s : List Char) : Option Int :=
  if s.all Char.isDigit ∧ digitsValue s ≤ maxInteger then some (digitsValue s) else none

/-- A character read between tokens. -/
def begin (ts : List Token) (c : Char) : Option Scan :=
  if c = ' ' ∨ c = '\t' ∨ c = '\r' then some ⟨ts, .between⟩
  else if c = '\n' ∨ c = ';' then some ⟨.newline :: ts, .between⟩
  else if c = '#' then some ⟨ts, .comment⟩
  else if c = '"' ∨ c = '\'' then some ⟨ts, .string c []⟩
  else if c = '<' then some ⟨ts, .less⟩
  else if isOperator c then some ⟨.op c :: ts, .between⟩
  else if c.isDigit then some ⟨ts, .number [c]⟩
  else if beginsWord c then some ⟨ts, .word [c]⟩
  else none

/-- A number's text at its end. -/
def closeNumber (ts : List Token) (read : List Char) : Option (List Token) :=
  (number? read.reverse).map fun x => .num x :: ts

def closeWord (ts : List Token) (read : List Char) : List Token :=
  .ident (String.ofList read.reverse) :: ts

/-- One character. -/
def step (s : Scan) (c : Char) : Option Scan :=
  let ts := s.tokens
  match s.mode with
  | .between => begin ts c
  | .comment => if c = '\n' then begin ts c else some s
  | .string q read =>
    if c = q then some ⟨.str (String.ofList read.reverse) :: ts, .between⟩
    else if c = '\\' then some ⟨ts, .escape q read⟩
    else some ⟨ts, .string q (c :: read)⟩
  | .escape q read => some ⟨ts, .string q (unescape c :: read)⟩
  | .number read =>
    if continuesNumber c then some ⟨ts, .number (c :: read)⟩
    else if c = 'L' then (integer? read.reverse).map fun n => ⟨.int n :: ts, .between⟩
    else (closeNumber ts read).bind fun ts => begin ts c
  | .word read =>
    if continuesWord c then some ⟨ts, .word (c :: read)⟩ else begin (closeWord ts read) c
  | .less => if c = '-' then some ⟨.assign :: ts, .between⟩ else none

/-- All characters, from where reading stands. -/
def scan (s : Scan) (text : List Char) : Option Scan := text.foldlM step s

/-- The end of the text. -/
def finish (s : Scan) : Except Failure (List Token) :=
  match s.mode with
  | .between | .comment => .ok s.tokens.reverse
  | .string _ _ | .escape _ _ => .error .incomplete
  | .number read =>
    match closeNumber s.tokens read with
    | some ts => .ok ts.reverse
    | none => .error .error
  | .word read => .ok (closeWord s.tokens read).reverse
  | .less => .error .error

/-- The tokens of a text. -/
def lex (text : List Char) : Except Failure (List Token) :=
  match scan ⟨[], .between⟩ text with
  | some s => finish s
  | none => .error .error

/-- Reading one text after another. -/
theorem scan_append (s : Scan) (a b : List Char) :
    scan s (a ++ b) = (scan s a).bind fun s => scan s b := by
  simp [scan, List.foldlM_append, Option.bind_eq_bind]

end Token
end GuestRuntime.Mini
