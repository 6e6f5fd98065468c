/-
Overseer.Rehearsal.Programs.Modes — what users may do with files.

A mode has twelve bits: three for what the file is run as, and three each for its owner, its
group and the others, who may read, write and run it. It is told in octal digits, or as clauses
that add bits, take them away or set them for some users.
-/
import Overseer.Text.Pieces

namespace Overseer.Rehearsal.Mode

/-- The usual mode of a file that is made. -/
def ofFile : Nat := 0o644

/-- The usual mode of a directory that is made. -/
def ofDirectory : Nat := 0o755

/-- All bits of a mode. -/
def all : Nat := 0o7777

/-- A mode without some bits. -/
def without (mode bits : Nat) : Nat := mode &&& (all - (bits &&& all))

/-- The bits that concern the users that a letter names. -/
def ofUsers : Char → Nat
  | 'u' => 0o4700
  | 'g' => 0o2070
  | 'o' => 0o0007
  | _ => all

/-- The bits that a letter stands for: a right of everybody, or those that some users have. -/
def ofLetter? (isDirectory : Bool) (mode : Nat) : Char → Option Nat
  | 'r' => some 0o444
  | 'w' => some 0o222
  | 'x' => some 0o111
  | 'X' => some (if isDirectory || mode &&& 0o111 != 0 then 0o111 else 0)
  | 's' => some 0o6000
  | 't' => some 0o1000
  | 'u' => some (mode / 64 % 8 * 0o111)
  | 'g' => some (mode / 8 % 8 * 0o111)
  | 'o' => some (mode % 8 * 0o111)
  | _ => none

/-- Applies what stands behind the users in a clause: signs with letters. The users are bits; if
none were named, all are meant, but the mask counts. -/
def adjust (isDirectory : Bool) (users : Option Nat) (mask : Nat) :
    Option Char → Nat → List Char → Option Nat
  | sign?, mode, c :: cs =>
    let reached := users.getD (all - (mask &&& all))
    if c = '=' then adjust isDirectory users mask (some c) (without mode (users.getD all)) cs
    else if c = '+' ∨ c = '-' then adjust isDirectory users mask (some c) mode cs
    else match sign?, ofLetter? isDirectory mode c with
      | some sign, some bits =>
        let bits := bits &&& reached
        adjust isDirectory users mask sign?
          (if sign = '-' then without mode bits else mode ||| bits) cs
      | _, _ => none
  | some _, mode, [] => some mode
  | none, _, [] => none

/-- The mode that a text makes of one; nothing if it tells none. -/
def changed? (isDirectory : Bool) (mask mode : Nat) (text : String) : Option Nat :=
  let cs := text.toList
  if !cs.isEmpty && cs.all fun c => '0' ≤ c && c ≤ '7' then
    let n := cs.foldl (fun n c => 8 * n + (c.toNat - '0'.toNat)) 0
    if n ≤ all then some n else none
  else
    (Text.pieces (· == ',') cs).foldlM (fun mode clause =>
      let who := clause.takeWhile ['u', 'g', 'o', 'a'].contains
      let users := if who.isEmpty then none else some ((who.map ofUsers).foldl (· ||| ·) 0)
      adjust isDirectory users mask none mode (clause.drop who.length)) mode

/-- The octal digits of a mode, four of them at least. -/
def fourDigits (mode : Nat) : String :=
  let digits := Nat.toDigits 8 mode
  String.ofList (List.replicate (4 - digits.length) '0' ++ digits)

end Overseer.Rehearsal.Mode
