/-
Overseer.Json.Quoted — strings between quotes.

Writing escapes the quote, the backslash and the control characters, and
nothing else. Reading accepts every escape of the format. An escape `\u`
names a unit of UTF-16, so a character outside the first plane takes two of
them; `pairUp` puts the two together.
-/
import Overseer.Json.Value

namespace Overseer.Json

/-! ## 1. Writing -/

/-- A digit of the base sixteen. -/
def hexDigit (n : Nat) : Char := if n < 10 then Char.ofNat (48 + n) else Char.ofNat (87 + n)

/-- The escape of a control character. -/
def unitEscape (n : Nat) : List Char :=
  ['\\', 'u', hexDigit (n / 4096 % 16), hexDigit (n / 256 % 16), hexDigit (n / 16 % 16),
   hexDigit (n % 16)]

/-- What stands for a character between quotes. -/
def escapeChar (c : Char) : List Char :=
  if c = '"' then ['\\', '"']
  else if c = '\\' then ['\\', '\\']
  else if c = '\n' then ['\\', 'n']
  else if c = '\r' then ['\\', 'r']
  else if c = '\t' then ['\\', 't']
  else if c.toNat = 8 then ['\\', 'b']
  else if c.toNat = 12 then ['\\', 'f']
  else if c.toNat < 32 then unitEscape c.toNat
  else [c]

/-- The text between quotes. -/
def escape (cs : List Char) : List Char := cs.flatMap escapeChar

/-! ## 2. Reading -/

/-- The value of a digit of the base sixteen. -/
def hexValue? (c : Char) : Option Nat :=
  let n := c.toNat
  if 48 ≤ n ∧ n ≤ 57 then some (n - 48)
  else if 97 ≤ n ∧ n ≤ 102 then some (n - 87)
  else if 65 ≤ n ∧ n ≤ 70 then some (n - 55)
  else none

/-- The unit that four digits name. -/
def unit? (a b c d : Char) : Option Nat := do
  return (← hexValue? a) * 4096 + (← hexValue? b) * 256 + (← hexValue? c) * 16 + (← hexValue? d)

/-- The units of the text between quotes: code points, and halves of pairs that are escaped. -/
def units? : List Char → Option (List Nat)
  | [] => some []
  | '\\' :: 'u' :: a :: b :: c :: d :: rest => do return (← unit? a b c d) :: (← units? rest)
  | '\\' :: e :: rest => do
    let n ← match e with
      | '"' => some 34 | '\\' => some 92 | '/' => some 47 | 'b' => some 8
      | 'f' => some 12 | 'n' => some 10 | 'r' => some 13 | 't' => some 9
      | _ => none
    return n :: (← units? rest)
  | ['\\'] => none
  | c :: rest => do return c.toNat :: (← units? rest)

/-- The first half of a pair. -/
def isHigh (n : Nat) : Bool := 0xD800 ≤ n && n < 0xDC00

/-- The second half of a pair. -/
def isLow (n : Nat) : Bool := 0xDC00 ≤ n && n < 0xE000

/-- The text of the units; `none` if a half stands alone. -/
def pairUp : List Nat → Label
  | [] => some ""
  | n :: rest =>
    if isHigh n then
      match rest with
      | m :: rest' =>
        if isLow m then do
          let tail ← pairUp rest'
          return String.singleton (Char.ofNat (0x10000 + (n - 0xD800) * 0x400 + (m - 0xDC00)))
            ++ tail
        else none
      | [] => none
    else if isLow n then none
    else do
      let tail ← pairUp rest
      return String.singleton (Char.ofNat n) ++ tail

/-- The string that stands between quotes; the outer `none` marks a broken escape. -/
def unescape? (cs : List Char) : Option Label := (units? cs).map pairUp

end Overseer.Json
