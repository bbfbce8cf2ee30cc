import GuestRuntime.Number.Double

/-!
Expressions of the mini language: literals, names, assignment, arithmetic and calls.
-/

namespace GuestRuntime.Mini

inductive Expr
  | num (x : Double)
  | int (n : Int)
  | str (s : String)
  | lgl (b : Bool)
  | null
  | ident (name : String)
  | assign (name : String) (rhs : Expr)
  | neg (e : Expr)
  | binary (op : Char) (l r : Expr)
  | call (name : String) (args : List Expr)
  deriving Repr, Inhabited

/-- A name that no argument list follows; three of them are literals. -/
def Expr.ofName (name : String) : Expr :=
  if name = "TRUE" then .lgl true
  else if name = "FALSE" then .lgl false
  else if name = "NULL" then .null
  else .ident name

end GuestRuntime.Mini
