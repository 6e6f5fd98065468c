/-
Overseer.Rehearsal.Shell.Escape — escapes in texts.

A backslash begins an escape. Those who read escapes differ in the ones they
know, so what is known is a parameter.
-/
import Overseer.Rehearsal.Octets
import Overseer.Rehearsal.Shell.Digits

namespace Overseer.Rehearsal.Shell

open Arithmetic (leadingNumber)

/-- What a backslash with the characters behind it stands for. -/
inductive Escape where
  /-- Octets, for so many characters. -/
  | octets (values : List UInt8) (length : Nat)
  /-- The end of all output. -/
  | stop
  /-- Nothing but itself. -/
  | none
deriving DecidableEq, Repr

/-- Which escapes are known. -/
structure Dialect where
  /-- A zero may stand in front of an octal number. -/
  leadingZero : Bool
  /-- There are hexadecimal numbers and a quote. -/
  hexadecimal : Bool
  /-- Output can be ended. -/
  stops : Bool
deriving DecidableEq

namespace Dialect

/-- The escapes in the formats of the shell's own `printf`. -/
def builtin : Dialect := ⟨false, false, false⟩

/-- The escapes in the formats of the program `printf`. -/
def program : Dialect := ⟨false, true, true⟩

/-- The escapes of the shell's own `echo`. -/
def echo : Dialect := ⟨true, false, true⟩

/-- The escapes of the program `echo`. -/
def echoProgram : Dialect := ⟨true, true, true⟩

/-- The escapes in arguments that are formats as well. -/
def inArguments (d : Dialect) : Dialect := { d with leadingZero := true, stops := true }

/-- Reads an escape behind its backslash. -/
def read (d : Dialect) : List Char → Escape
  | '\\' :: _ => .octets [92] 1
  | 'a' :: _ => .octets [7] 1
  | 'b' :: _ => .octets [8] 1
  | 'c' :: _ => if d.stops then .stop else .none
  | 'e' :: _ => .octets [27] 1
  | 'f' :: _ => .octets [12] 1
  | 'n' :: _ => .octets [10] 1
  | 'r' :: _ => .octets [13] 1
  | 't' :: _ => .octets [9] 1
  | 'v' :: _ => .octets [11] 1
  | '"' :: _ => if d.hexadecimal then .octets [34] 1 else .none
  | 'x' :: cs =>
    let (n, length) := leadingNumber 16 2 cs
    if d.hexadecimal && length > 0 then .octets [n.toUInt8] (length + 1) else .none
  | cs =>
    let skip := match cs with
      | '0' :: c :: _ => if d.leadingZero ∧ '0' ≤ c ∧ c ≤ '7' then 1 else 0
      | _ => 0
    let (n, length) := leadingNumber 8 3 (cs.drop skip)
    if length > 0 then .octets [n.toUInt8] (length + skip) else .none

/-- Resolves escapes; `skip` characters are read already. Tells whether output goes on. -/
def unescape (d : Dialect) : Nat → List Char → List UInt8 × Bool
  | _, [] => ([], true)
  | skip + 1, _ :: cs => d.unescape skip cs
  | 0, c :: cs =>
    let go (octets : List UInt8) (skip : Nat) :=
      let (rest, goesOn) := d.unescape skip cs
      (octets ++ rest, goesOn)
    if c = '\\' then
      match d.read cs with
      | .octets values length => go values length
      | .stop => ([], false)
      | .none => go [92] 0
    else go [c.toNat.toUInt8] 0

end Dialect

end Overseer.Rehearsal.Shell
