import GuestRuntime.Guest.Entry
import GuestRuntime.Mini.Value

/-!
Evaluation in the mini guest. Operands and arguments are evaluated from left to right, and the first
failure ends the evaluation; what was assigned and printed before it stays. Arithmetic on two single
integers is exact or missing; all other arithmetic is that of doubles, the shorter operand starting
again from its beginning.

Memory is taken to hold whatever is made of what it holds already. A length that a code asks for
outright is another matter: above the largest piece of memory there can be it is no failure of the
code's, the guest panics.
-/

namespace GuestRuntime.Mini

/-- Why an evaluation ends without a value. -/
inductive EvalError
  | unbound (name : String)
  | notNegatable
  | notNumeric
  | badLength
  | notBytes
  /-- The code's own failure. -/
  | stopped (text : String)
  | noFunction (name : String)
  /-- The guest cannot tell its last message. -/
  | noMessage
  | missingArgument
  | notEnvironment
  /-- More elements were asked for than a piece of memory can have. -/
  | oversized
  deriving DecidableEq, Repr

/-- The guest's panic, where it is not the code that fails. -/
def EvalError.panic? : EvalError → Option Panic
  | oversized => some .capacityOverflow
  | _ => none

theorem EvalError.panic?_eq_some {why : EvalError} {p : Panic} :
    why.panic? = some p ↔ why = .oversized ∧ p = .capacityOverflow := by
  cases why <;> simp [panic?, eq_comm]

def EvalError.message : EvalError → String
  | unbound name => "object '" ++ name ++ "' not found"
  | notNegatable => "invalid argument to unary operator"
  | notNumeric => "non-numeric argument to binary operator"
  | badLength => "invalid 'length' argument"
  | notBytes => "cannot coerce to raw"
  | stopped text => text
  | noFunction name => "could not find function \"" ++ name ++ "\""
  | noMessage => "error message unavailable"
  | missingArgument => "argument \"x\" is missing, with no default"
  | notEnvironment => "invalid 'envir' argument"
  | oversized => Panic.message .capacityOverflow

/-- How a guest answers when it is asked for its last message. -/
inductive MessageMode
  | last
  | fails
  | null
  deriving DecidableEq, Repr, Inhabited

/-- The global variables, the latest binding of a name first. -/
abbrev Globals := List (String × Value)

/-- What evaluation reads and leaves: the globals, the last message, and the texts printed. -/
structure Scratch where
  globals : Globals
  lastError : String
  mode : MessageMode
  /-- In order. -/
  printed : List String := []
  deriving Inhabited

/-- The binding replaces any that the name had. -/
def Globals.set (g : Globals) (name : String) (v : Value) : Globals :=
  (name, v) :: g.filter fun b => b.1 != name

/-- An evaluation step: it may fail, and keeps what was done before. -/
abbrev Eval (α : Type) := ExceptT EvalError (StateM Scratch) α

/-- Every occurrence of a non-empty pattern, from the left and without overlap; `skip` characters
belong to the occurrence found last. -/
def replaceFrom (pattern substitute : List Char) : Nat → List Char → List Char
  | _, [] => []
  | skip + 1, _ :: r => replaceFrom pattern substitute skip r
  | 0, c :: r =>
    if pattern.isPrefixOf (c :: r) then
      substitute ++ replaceFrom pattern substitute (pattern.length - 1) r
    else c :: replaceFrom pattern substitute 0 r

/-- The text with every occurrence of the pattern replaced; an empty one occurs around every
character. -/
def replaceAll (pattern substitute text : List Char) : List Char :=
  if pattern.isEmpty then substitute ++ text.flatMap fun c => c :: substitute
  else replaceFrom pattern substitute 0 text

/-- The whole number in range that an exact result is, or the missing one. -/
def checkedInteger (n : Int) : Int :=
  if -2147483648 ≤ n ∧ n ≤ 2147483647 then n else missingInteger

def integerOp (op : Char) (a b : Int) : Int :=
  checkedInteger (if op = '+' then a + b else if op = '-' then a - b else a * b)

def realOp (op : Char) (x y : Double) : Double :=
  if op = '+' then x + y else if op = '-' then x - y else if op = '*' then x * y else x / y

/-- So many elements of the list repeated without end; none if it has none. -/
def cycled {α : Type} (n : Nat) (a : List α) : List α :=
  (List.replicate (n / a.length + 1) a).flatten.take n

/-- Element by element, as many as the longer has; none if one has none. -/
def recycle (op : Char) (a b : List Double) : List Double :=
  let n := max a.length b.length
  List.zipWith (realOp op) (cycled n a) (cycled n b)

def arithmetic (op : Char) (l r : Value) : Except EvalError Value :=
  let general :=
    match l.operands?, r.operands? with
    | some a, some b => .ok (.reals (recycle op a b))
    | _, _ => .error .notNumeric
  match l, r with
  | .ints [a], .ints [b] => if op = '/' then general else .ok (.ints [integerOp op a b])
  | _, _ => general

/-- The largest length that can be asked for. -/
def maxLength : Nat := pow2 64 - 1

/-- The length that a first argument asks for. -/
def lengthArgument (args : List Value) : Except EvalError Nat :=
  match args.head?.bind Value.numbers? with
  | some [n] => if n.isNonnegative then .ok (n.clampNat maxLength) else .error .badLength
  | _ => .error .badLength

/-- The largest piece of memory, in bytes. -/
def memoryTop : Nat := pow2 63 - 1

/-- The length that a first argument asks for, of a vector whose elements have so many bytes. -/
def allocated (size : Nat) (args : List Value) : Except EvalError Nat := do
  let n ← lengthArgument args
  if n * size ≤ memoryTop then return n else throw .oversized

theorem allocated_of_ok {size n : Nat} {args : List Value} (h : lengthArgument args = .ok n) :
    allocated size args = if n * size ≤ memoryTop then .ok n else .error .oversized := by
  rw [allocated, h]
  rfl

theorem allocated_of_error {size : Nat} {args : List Value} {why : EvalError}
    (h : lengthArgument args = .error why) : allocated size args = .error why := by
  rw [allocated, h]
  rfl

/-- The bytes of a string in a vector, wherever its text is. -/
def stringSize : Nat := 16

/-- Arguments joined into one vector: bytes if there is nothing else, strings if there is one,
else numbers. -/
def combine (args : List Value) : Value :=
  let numbers := args.flatMap fun a => a.numbers?.getD []
  if args.all fun | .bytes _ | .nil => true | _ => false then .bytes (numbers.map Double.toByte)
  else if args.any fun | .strings _ => true | _ => false then
    .ofTexts (args.flatMap Value.texts)
  else .reals numbers

/-- What a function gives; only `cat` does more. -/
def builtin (s : Scratch) (name : String) (args : List Value) : Except EvalError Value :=
  match name with
  | "stop" => .error (.stopped (String.join (args.flatMap Value.texts)))
  | "c" => .ok (combine args)
  | "raw" => (allocated 1 args).map fun n => .bytes (List.replicate n 0)
  | "as.raw" =>
    match args.head?.bind Value.numbers? with
    | some v => .ok (.bytes (v.map Double.toByte))
    | none => .error .notBytes
  | "character" => (allocated stringSize args).map fun n => .strings (List.replicate n [])
  | "length" => .ok (.reals [.ofNat ((args.head?.map Value.length).getD 0)])
  | "as.character" => .ok (.ofTexts ((args.head?.map Value.texts).getD []))
  | "paste0" => .ok (.ofText (String.join (args.flatMap Value.texts)))
  | "invisible" | "identity" => .ok (args.head?.getD .nil)
  | "cat" => .ok .nil
  | "geterrmessage" =>
    match s.mode with
    | .last => .ok (.ofText s.lastError)
    | .fails => .error .noMessage
    | .null => .ok .nil
  | "gsub" =>
    match args with
    | p :: r :: x :: _ =>
      let p := (String.join p.texts).toList
      let r := (String.join r.texts).toList
      .ok (.ofTexts (x.texts.map fun t => String.ofList (replaceAll p r t.toList)))
    | _ => .error .missingArgument
  | _ => .error (.noFunction name)

/-- The text that a call prints. -/
def printed? (name : String) (args : List Value) : Option String :=
  if name = "cat" then some (" ".intercalate (args.flatMap Value.texts)) else none

/-- A call with its arguments evaluated. -/
def apply (name : String) (args : List Value) : Eval Value := do
  match printed? name args with
  | some text => modify fun s => { s with printed := s.printed ++ [text] }
  | none => pure ()
  match builtin (← get) name args with
  | .ok v => return v
  | .error e => throw e

mutual

/-- The value of an expression. -/
def eval : Expr → Eval Value
  | .num x => return .reals [x]
  | .int i => return .ints [i]
  | .str s => return .ofText s
  | .lgl b => return .lgls [if b then 1 else 0]
  | .null => return .nil
  | .ident name => do
    match (← get).globals.lookup name with
    | some v => return v
    | none => throw (.unbound name)
  | .assign name rhs => do
    let v ← eval rhs
    modify fun s => { s with globals := s.globals.set name v }
    return v
  | .neg e => do
    let v ← eval e
    match v.numbers? with
    | some xs => return .reals (xs.map Neg.neg)
    | none => throw .notNegatable
  | .binary op l r => do
    let l ← eval l
    let r ← eval r
    match arithmetic op l r with
    | .ok v => return v
    | .error e => throw e
  | .call name args => do
    let args ← evalAll args
    apply name args

/-- The values of arguments, up to the first that fails. -/
def evalAll : List Expr → Eval (List Value)
  | [] => return []
  | e :: r => do
    let v ← eval e
    let vs ← evalAll r
    return v :: vs

end

end GuestRuntime.Mini
