/-
Overseer.Rehearsal.Shell.Digits — numbers at the beginning of texts.

Digits count as long as they are digits of the base. The first characters of a
literal say its base.
-/
namespace Overseer.Rehearsal.Shell.Arithmetic

/-- The value of a digit in a base of at most 16. -/
def digit? (base : Nat) (c : Char) : Option Nat :=
  let value :=
    if c.isDigit then some (c.toNat - 48)
    else if 'a' ≤ c ∧ c ≤ 'f' then some (c.toNat - 87)
    else if 'A' ≤ c ∧ c ≤ 'F' then some (c.toNat - 55)
    else none
  value.filter (· < base)

/-- The number of the digits in front of a text, of which there are at most
`most`; gives the number and how many digits it has. -/
def leadingNumber (base most : Nat) (cs : List Char) : Nat × Nat :=
  let digits := (cs.take most).takeWhile fun c => (digit? base c).isSome
  (digits.foldl (fun n c => base * n + (digit? base c).getD 0) 0, digits.length)

/-- The number without sign in front of a text, in the base that its first
characters say, and how many characters it has. -/
def leadingLiteral (cs : List Char) : Nat × Nat :=
  match cs with
  | '0' :: x :: rest =>
    let (n, length) := leadingNumber 16 rest.length rest
    if (x = 'x' ∨ x = 'X') ∧ length > 0 then (n, length + 2)
    else leadingNumber 8 cs.length cs
  | _ => leadingNumber 10 cs.length cs

end Overseer.Rehearsal.Shell.Arithmetic
