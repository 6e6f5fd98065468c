/-
Overseer.Rehearsal.Programs.Order — lines in order.

Lines are compared by keys, each of which is a range of fields, as texts or as numbers, and at
last as a whole. A line is cut into fields at a separator, or where blanks begin.
-/
import Overseer.Rehearsal.Programs.Options

namespace Overseer.Rehearsal.Order

/-- How parts of lines are compared. -/
structure Manner where
  /-- Numbers in front of the parts are compared and no texts. -/
  numeric : Bool
  reversed : Bool
deriving DecidableEq

/-- A part of a line by which it is compared; fields are counted from one. -/
structure Key where
  first : Nat
  last : Option Nat
  manner : Option Manner

/-- The manner that letters say. -/
def Manner.ofLetters (letters : List Char) : Manner := ⟨letters.contains 'n', letters.contains 'r'⟩

/-- Blanks stand around fields. -/
def isBlank (c : Char) : Bool := c == ' ' || c == '\t'

/-- Reads a key such as `2,3n`. -/
def readKey? (text : String) : Option Key :=
  let front := text.toList.takeWhile (· != ',')
  let back := (text.toList.drop front.length).drop 1
  let (low, high) := (front.takeWhile Char.isDigit, back.takeWhile Char.isDigit)
  let letters := front.drop low.length ++ back.drop high.length
  let number (digits : List Char) : Nat := Text.digitsAfter 0 digits
  if number low = 0 || !letters.all ['n', 'r'].contains then none
  else some ⟨number low, if high.isEmpty then none else some (number high),
    if letters.isEmpty then none else some (.ofLetters letters)⟩

/-- The fields of a line; blanks belong to the field behind them. -/
def fieldsOf (separator : Option Char) (line : List Char) : List (List Char) :=
  match separator with
  | some c => Text.pieces (· == c) line
  | none => go (line.length + 1) line
where
  go : Nat → List Char → List (List Char)
    | 0, _ => []
    | fuel + 1, cs =>
      let blanks := cs.takeWhile isBlank
      let word := (cs.drop blanks.length).takeWhile fun c => !isBlank c
      let rest := cs.drop (blanks.length + word.length)
      (blanks ++ word) :: if rest.isEmpty then [] else go fuel rest

/-- The part of a line that a key means. -/
def Key.part (k : Key) (separator : Option Char) (line : List Char) : List Char :=
  let fields := (fieldsOf separator line).drop (k.first - 1)
  separator.toList.intercalate (match k.last with
    | some last => fields.take (last + 1 - k.first)
    | none => fields)

/-- How two lists stand to each other by their first difference. -/
def compareChars : List Char → List Char → Ordering
  | [], [] => .eq
  | [], _ => .lt
  | _, [] => .gt
  | a :: as, b :: bs => if a = b then compareChars as bs else if a < b then .lt else .gt

/-- The whole number in front of a text. -/
def leadingNumber (cs : List Char) : Int :=
  match cs.dropWhile isBlank with
  | '-' :: rest => -(Text.digitsAfter 0 (rest.takeWhile Char.isDigit) : Int)
  | cs => (Text.digitsAfter 0 (cs.takeWhile Char.isDigit) : Int)

/-- How two parts of lines stand to each other. -/
def Manner.compare (m : Manner) (a b : List Char) : Ordering :=
  let order := if m.numeric then Ord.compare (leadingNumber a) (leadingNumber b)
    else compareChars a b
  if m.reversed then order.swap else order

/-- How lines are put in order. -/
structure Rule where
  keys : List Key
  manner : Manner
  separator : Option Char

/-- How two lines stand to each other: by their keys, and at last as a whole. -/
def Rule.compare (r : Rule) (a b : List Char) : Ordering :=
  let byKeys := r.keys.foldl (fun order k => order.then
    ((k.manner.getD r.manner).compare (k.part r.separator a) (k.part r.separator b))) .eq
  let byKeys := if r.keys.isEmpty then r.manner.compare a b else byKeys
  byKeys.then (if r.manner.reversed then (compareChars a b).swap else compareChars a b)

/-- Puts lines in order. -/
def Rule.sort (r : Rule) (lines : List (List Char)) : List (List Char) :=
  lines.mergeSort fun a b => r.compare a b != .gt

end Overseer.Rehearsal.Order
