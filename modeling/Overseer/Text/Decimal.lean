/-
Overseer.Text.Decimal — integers as users and programs write them.

A sign may stand in front; at least one ASCII digit has to follow, and nothing
else may. Bounds are the reader's matter.
-/

namespace Overseer.Text

/-- The value of digits, in front of which a number was read. -/
def digitsAfter (n : Nat) : List Char → Nat
  | [] => n
  | c :: cs => digitsAfter (10 * n + (c.toNat - 48)) cs

/-- A sign and what follows it. -/
def splitSign : List Char → Bool × List Char
  | '-' :: cs => (true, cs)
  | '+' :: cs => (false, cs)
  | cs => (false, cs)

/-- The integer that a text spells. -/
def decimal? (text : List Char) : Option Int :=
  let (negative, digits) := splitSign text
  if digits.isEmpty || !digits.all Char.isDigit then none
  else if negative then some (-(digitsAfter 0 digits : Int))
  else some (digitsAfter 0 digits)

/-- The integer that a text spells, if it lies within bounds. -/
def decimalWithin? (low high : Int) (text : String) : Option Int :=
  (decimal? text.toList).filter fun i => decide (low ≤ i) && decide (i ≤ high)

example : decimal? "-42".toList = some (-42) := by decide
example : decimal? "+".toList = none := by decide

end Overseer.Text
