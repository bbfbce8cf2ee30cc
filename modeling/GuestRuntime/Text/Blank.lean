/-!
Blanks and lines. Blank is what Unicode gives the property White_Space; a line ends at a line feed,
and one carriage return before it belongs to the end.
-/

namespace GuestRuntime.Text

/-- White_Space. -/
def isBlank (c : Char) : Bool :=
  let n := c.toNat
  (9 ≤ n && n ≤ 13) || n == 0x20 || n == 0x85 || n == 0xA0 || n == 0x1680 ||
    (0x2000 ≤ n && n ≤ 0x200A) || n == 0x2028 || n == 0x2029 || n == 0x202F || n == 0x205F ||
    n == 0x3000

/-- Without the blanks at both ends. -/
def trim (s : List Char) : List Char :=
  ((s.dropWhile isBlank).reverse.dropWhile isBlank).reverse

/-- A line without the carriage return that belongs to its end. -/
def chomp (line : List Char) : List Char :=
  if line.getLast? = some '\r' then line.dropLast else line

/-- The lines, given what was read of the current one, newest first; text after the last line feed
is a line unless it is empty. -/
def linesFrom : List Char → List Char → List (List Char)
  | [], [] => []
  | cur, [] => [cur.reverse]
  | cur, '\n' :: r => chomp cur.reverse :: linesFrom [] r
  | cur, c :: r => linesFrom (c :: cur) r

def lines (s : List Char) : List (List Char) := linesFrom [] s

end GuestRuntime.Text
