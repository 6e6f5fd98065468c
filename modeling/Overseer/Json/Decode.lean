/-
Overseer.Json.Decode — typed values out of documents.

A structure is read from an object or from a list that gives its fields in
order. Fields that the structure does not know are passed over; a field that it
knows may stand only once. What may be left out depends on the form: in an
object a field that admits `null` may be missing, in a list only the fields at
the end that have a value by default.
-/
import Overseer.Json.Value
import Overseer.Word

namespace Overseer.Json

/-- When a field may be left out. -/
inductive Presence where
  | required
  | nullable
  | defaulted
deriving DecidableEq

/-- A structure's fields, in order. -/
abbrev Layout := List (String × Presence)

/-- The fields given by position. -/
def positional? : Layout → List Value → Option (List (Option Value))
  | [], [] => some []
  | [], _ :: _ => none
  | _ :: layout, v :: vs => do return some v :: (← positional? layout vs)
  | (_, presence) :: layout, [] =>
    if presence = .defaulted then do return none :: (← positional? layout []) else none

/-- The field of a name; fails if it is given twice, or missing and required. -/
def named? (fields : List (Label × Value)) (name : String) (presence : Presence) :
    Option (Option Value) :=
  match fields.filter fun f => f.1 == some name with
  | [] => if presence = .required then none else some none
  | [f] => some (some f.2)
  | _ => none

/-- The values of a structure's fields; fails on a field whose name is no text. -/
def Value.fields? (layout : Layout) : Value → Option (List (Option Value))
  | .arr items => positional? layout items
  | .obj fields =>
    if fields.any fun f => f.1.isNone then none
    else layout.mapM fun f => named? fields f.1 f.2
  | _ => none

/-- The text of a string. -/
def Value.text? : Value → Option String
  | .str s => s
  | _ => none

/-- A truth value. -/
def Value.bool? : Value → Option Bool
  | .bool b => some b
  | _ => none

/-- An integer within bounds. -/
def Value.intWithin? (low high : Int) : Value → Option Int
  | .int i => if low ≤ i ∧ i ≤ high then some i else none
  | _ => none

/-- An integer of 64 bits with sign. -/
def Value.int64? : Value → Option Int := Value.intWithin? (Word.least 64) (Word.greatest 64)

/-- An integer of 32 bits with sign. -/
def Value.int32? : Value → Option Int := Value.intWithin? (Word.least 32) (Word.greatest 32)

/-- An integer of the given number of bits without sign. -/
def Value.nat? (bits : Nat) (v : Value) : Option Nat :=
  (v.intWithin? 0 (Word.greatestUnsigned bits)).map Int.toNat

/-- A list whose items are all readable. -/
def Value.list? {α : Type} (item? : Value → Option α) : Value → Option (List α)
  | .arr items => items.mapM item?
  | _ => none

/-- `null`, or a readable value. -/
def Value.nullable? {α : Type} (read? : Value → Option α) : Value → Option (Option α)
  | .null => some none
  | v => (read? v).map some

/-- A field that may be missing or `null`. -/
def optional? {α : Type} (read? : Value → Option α) : Option Value → Option (Option α)
  | none => some none
  | some v => v.nullable? read?

/-- A field with a value by default. -/
def orDefault? {α : Type} (default : α) (read? : Value → Option α) : Option Value → Option α
  | none => some default
  | some v => read? v

end Overseer.Json
