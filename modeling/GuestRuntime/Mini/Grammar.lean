import GuestRuntime.Mini.Expr
import GuestRuntime.Mini.Token

/-!
Reading expressions. The grammar, `N` being any run of newlines:

        program   = N { statement newline N } [ statement ] N
        statement = ident <- N sum | sum
        sum       = product { (+|-) N product }
        product   = unary { (*|/) N unary }
        unary     = - unary | primary
        primary   = literal | ident | ( N sum N ) | ident ( N [ sum N { , N sum N } ] )

A rule is read with as many steps as the tokens it is given can need, and what is left of them is
part of the outcome, of a failure as well. Text that ends where more must come is incomplete.
-/

namespace GuestRuntime.Mini

/-- What was read and what is left, or why not and what was left then. -/
inductive Reading (α : Type)
  | ok (value : α) (rest : List Token)
  | fail (why : Failure) (rest : List Token)
  deriving Repr

namespace Reading

variable {α β : Type}

def andThen : Reading α → (α → List Token → Reading β) → Reading β
  | ok a r, f => f a r
  | fail w r, _ => fail w r

def map (f : α → β) (r : Reading α) : Reading β := r.andThen fun a rest => ok (f a) rest

end Reading

/-- The rules of the grammar; a tail goes on from an operand already read. -/
inductive Rule
  | sum
  | sumTail (lhs : Expr)
  | product
  | productTail (lhs : Expr)
  | unary
  | primary
  /-- Behind an opening parenthesis or a comma, the arguments before in order. -/
  | arguments (name : String) (before : List Expr)

/-- Without the newlines at the front. -/
def skipNewlines (ts : List Token) : List Token := ts.dropWhile (· = .newline)

/-- Behind the closing parenthesis that must come. -/
def closing (e : Expr) (ts : List Token) : Reading Expr :=
  match skipNewlines ts with
  | [] => .fail .incomplete []
  | .op ')' :: r => .ok e r
  | _ :: r => .fail .error r

/-- One rule, with `next` to read the rules it refers to. -/
def Rule.expand (next : Rule → List Token → Reading Expr) : Rule → List Token → Reading Expr
  | .sum, ts => (next .product ts).andThen fun e r => next (.sumTail e) r
  | .sumTail lhs, ts =>
    match ts with
    | .op c :: r =>
      if c = '+' ∨ c = '-' then
        (next .product (skipNewlines r)).andThen fun e r => next (.sumTail (.binary c lhs e)) r
      else .ok lhs ts
    | _ => .ok lhs ts
  | .product, ts => (next .unary ts).andThen fun e r => next (.productTail e) r
  | .productTail lhs, ts =>
    match ts with
    | .op c :: r =>
      if c = '*' ∨ c = '/' then
        (next .unary (skipNewlines r)).andThen fun e r => next (.productTail (.binary c lhs e)) r
      else .ok lhs ts
    | _ => .ok lhs ts
  | .unary, ts =>
    match ts with
    | .op '-' :: r => (next .unary r).map .neg
    | _ => next .primary ts
  | .primary, ts =>
    match ts with
    | [] => .fail .incomplete []
    | .num x :: r => .ok (.num x) r
    | .int i :: r => .ok (.int i) r
    | .str s :: r => .ok (.str s) r
    | .op '(' :: r => (next .sum (skipNewlines r)).andThen closing
    | .ident name :: .op '(' :: r =>
      match skipNewlines r with
      | .op ')' :: r => .ok (.call name []) r
      | r => next (.arguments name []) r
    | .ident name :: r => .ok (.ofName name) r
    | _ :: r => .fail .error r
  | .arguments name before, ts =>
    (next .sum ts).andThen fun e r =>
      match skipNewlines r with
      | [] => .fail .incomplete []
      | .op ',' :: r => next (.arguments name (before ++ [e])) (skipNewlines r)
      | .op ')' :: r => .ok (.call name (before ++ [e])) r
      | _ :: r => .fail .error r

/-- Reads one expression by a rule; the number bounds the nesting of rules. -/
def read : Nat → Rule → List Token → Reading Expr
  | 0, _, ts => .fail .error ts
  | n + 1, rule, ts => rule.expand (read n) ts

/-- Rules that can nest over so many tokens: five for each, and one way down. -/
def nesting (ts : List Token) : Nat := 5 * ts.length + 6

def statement (ts : List Token) : Reading Expr :=
  match ts with
  | .ident name :: .assign :: r =>
    (read (nesting r) .sum (skipNewlines r)).map (.assign name)
  | _ => read (nesting ts) .sum ts

/-- The statements, at most as many as the number says. -/
def statements : Nat → List Token → Except Failure (List Expr)
  | 0, _ => .error .error
  | n + 1, ts =>
    match skipNewlines ts with
    | [] => .ok []
    | ts =>
      match statement ts with
      | .fail w _ => .error w
      | .ok e r =>
        match r with
        | [] => .ok [e]
        | .newline :: _ => (statements n r).map (e :: ·)
        | _ => .error .error

/-- The expressions of a token list. -/
def program (ts : List Token) : Except Failure (List Expr) := statements (ts.length + 1) ts

/-- The expressions of a source text. -/
def parse (source : List Char) : Except Failure (List Expr) :=
  match Token.lex source with
  | .ok ts => program ts
  | .error w => .error w

end GuestRuntime.Mini
