import LSystem.Ascending

/-!
# Characters

White space, hexadecimal digits, and classes of characters in general. A class is given by its
boundaries: the code points, in their order, at which a run of characters of the class begins
or ends. A character is in the class if an odd number of boundaries lie at or below it.
-/

namespace LSystem.Text

/-- **White space:** the control characters from tab to carriage return, the space, next
line, the no-break space, the spaces of fixed width, and the separators. These are the
characters that Unicode calls `White_Space`. Tokens hold none of them. -/
def isBlank (c : Char) : Bool :=
  let n := c.toNat
  (0x09 ≤ n && n ≤ 0x0D) || n == 0x20 || n == 0x85 || n == 0xA0 || n == 0x1680
    || (0x2000 ≤ n && n ≤ 0x200A) || n == 0x2028 || n == 0x2029 || n == 0x202F || n == 0x205F
    || n == 0x3000

/-- The value of a hexadecimal digit, small or capital. -/
def hexDigit? (c : Char) : Option Nat :=
  if '0' ≤ c ∧ c ≤ '9' then some (c.toNat - 48)
  else if 'a' ≤ c ∧ c ≤ 'f' then some (c.toNat - 87)
  else if 'A' ≤ c ∧ c ≤ 'F' then some (c.toNat - 55)
  else none

/-- A class of characters by its boundaries. -/
structure CharClass where
  boundaries : Array Nat

/-- Whether a character is in a class. -/
def CharClass.holds (k : CharClass) (c : Char) : Bool :=
  Ascending.countUpTo k.boundaries c.toNat % 2 = 1

end LSystem.Text
