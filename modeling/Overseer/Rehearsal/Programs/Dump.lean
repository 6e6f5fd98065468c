/-
Overseer.Rehearsal.Programs.Dump — octets in other forms.

Octets are shown as characters in lines of sixteen, with the place of the first one in front, or
written in an alphabet of 64 letters, each of which takes six bits.
-/
import Overseer.Rehearsal.Programs.Digest

namespace Overseer.Rehearsal

/-! ## 1. Characters in columns -/

namespace Dump

/-- The characters with an escape of one letter. -/
def escapes : List (Nat × Char) :=
  [(0, '0'), (7, 'a'), (8, 'b'), (9, 't'), (10, 'n'), (11, 'v'), (12, 'f'), (13, 'r')]

/-- The digits of a number, filled up with zeros. -/
def zeroFilled (base width n : Nat) : List Char :=
  let ds := Nat.toDigits base n
  List.replicate (width - ds.length) '0' ++ ds

/-- An octet as a field shows it. -/
def shown (n : Nat) : List Char :=
  let text := match escapes.lookup n with
    | some c => ['\\', c]
    | none => if 32 ≤ n ∧ n < 127 then [Char.ofNat n] else zeroFilled 8 3 n
  List.replicate (4 - text.length) ' ' ++ text

/-- Cuts a list into pieces of some size; `fuel` bounds their number. -/
def groupsOf {α : Type} (size : Nat) : Nat → List α → List (List α)
  | 0, _ => []
  | fuel + 1, xs => if xs.isEmpty then [] else xs.take size :: groupsOf size fuel (xs.drop size)

/-- Octets in lines of sixteen. -/
def columns (places : Bool) (octets : List Nat) : List Char :=
  let place (n : Nat) : List Char := if places then zeroFilled 8 7 n else []
  ((groupsOf 16 octets.length octets).zipIdx.flatMap fun (line, i) =>
    withNewline (place (16 * i) ++ line.flatMap shown))
    ++ if places then withNewline (place octets.length) else []

end Dump

/-- Shows octets as characters. -/
def dumper (args : List String) : Except Refusal Digest := do
  let given ← readOptions "od" (optionSet "c" "A") args 1
  .ok (allFiles "od" given.operands fun cs =>
    Dump.columns (given.value? 'A' != some "n") (cs.map Char.toNat))

/-! ## 2. Letters for bits -/

/-- The letters from one to another. -/
def lettersFrom (first last : Char) : List Char :=
  (List.range (last.toNat + 1 - first.toNat)).map fun n => Char.ofNat (first.toNat + n)

/-- The 64 letters, each of which stands for six bits. -/
def sixBitLetters : List Char :=
  lettersFrom 'A' 'Z' ++ lettersFrom 'a' 'z' ++ lettersFrom '0' '9' ++ ['+', '/']

/-- The four letters of a group of at most three octets; signs that stand for nothing fill it
up. -/
def lettersOfGroup (group : List Nat) : List Char :=
  let n := (group ++ List.replicate (3 - group.length) 0).foldl (fun n octet => n * 256 + octet) 0
  let letters := [n / 262144, n / 4096 % 64, n / 64 % 64, n % 64].map (sixBitLetters.getD · '=')
  letters.take (group.length + 1) ++ List.replicate (3 - group.length) '='

example : lettersOfGroup [104, 105] = ['a', 'G', 'k', '='] := by decide +kernel

/-- Writes octets as letters, in lines of 76. -/
def encoder (args : List String) : Except Refusal Digest :=
  .ok (allFiles "base64" args fun cs =>
    let letters := (Dump.groupsOf 3 cs.length (cs.map Char.toNat)).flatMap lettersOfGroup
    (Dump.groupsOf 76 letters.length letters).flatMap withNewline)

end Overseer.Rehearsal
