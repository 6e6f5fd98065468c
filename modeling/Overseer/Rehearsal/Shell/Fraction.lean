/-
Overseer.Rehearsal.Shell.Fraction — numbers with a point, as formats show them.

A number is read exactly and then brought to the nearest one that has 53 bits,
as programs hold it. It is shown with so many digits behind the point, of two
nearest ones the one that is even.
-/
import Overseer.Rehearsal.Shell.Arithmetic

namespace Overseer.Rehearsal.Shell

/-- A fraction with a sign. -/
structure Fraction where
  negative : Bool
  numerator : Nat
  /-- Is never zero in what is read. -/
  denominator : Nat
deriving DecidableEq, Repr

namespace Fraction

/-- The nearest whole number of a quotient; of two the one that is even. -/
def roundQuotient (n d : Nat) : Nat :=
  let (q, r) := (n / d, n % d)
  if 2 * r < d then q else if d < 2 * r then q + 1 else q + q % 2

/-- How often a number can be halved before it is zero. -/
def bitLength (n : Nat) : Nat := if n = 0 then 0 else Nat.log2 n + 1

/-- The nearest fraction with 53 bits. -/
def toDouble (f : Fraction) : Fraction :=
  if f.numerator = 0 then f
  else
    let shift : Int := 53 - ((bitLength f.numerator : Int) - bitLength f.denominator)
    let scale (shift : Int) : Nat × Nat :=
      (f.numerator * Nat.pow 2 shift.toNat, f.denominator * Nat.pow 2 (-shift).toNat)
    let (n, d) := scale shift
    let shift := if Nat.pow 2 53 ≤ n / d then shift - 1 else shift
    let (n, d) := scale shift
    ⟨f.negative, roundQuotient n d * Nat.pow 2 (-shift).toNat, Nat.pow 2 shift.toNat⟩

/-- The fraction in front of a text, and how many characters it has; none if
there is no digit. -/
def leading? (cs : List Char) : Option (Fraction × Nat) :=
  let blanks := cs.takeWhile Arithmetic.isBlank
  let (negative, body) := Text.splitSign (cs.drop blanks.length)
  let sign := cs.length - blanks.length - body.length
  let whole := body.takeWhile Char.isDigit
  let rest := body.drop whole.length
  let digits := match rest with
    | '.' :: more => more.takeWhile Char.isDigit
    | _ => []
  let point := if rest.head? = some '.' then 1 else 0
  if whole.isEmpty && digits.isEmpty then none
  else
    some (⟨negative, Text.digitsAfter 0 (whole ++ digits), Nat.pow 10 digits.length⟩,
      blanks.length + sign + whole.length + point + digits.length)

/-- A whole number with a point in front of its last digits. -/
def withPoint (places n : Nat) : String :=
  let digits := Nat.toDigits 10 n
  let digits := List.replicate (places + 1 - digits.length) '0' ++ digits
  let split := digits.length - places
  String.ofList (digits.take split ++ (if places = 0 then [] else ['.'])
    ++ digits.drop split)

/-- The value, without its sign, with so many digits behind the point. -/
def fixed (f : Fraction) (places : Nat) : String :=
  withPoint places (roundQuotient (f.numerator * Nat.pow 10 places) f.denominator)

end Fraction

end Overseer.Rehearsal.Shell
