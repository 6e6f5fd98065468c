/-
Overseer.Log.ClearScreen — output lines without the sequences that wipe a terminal.

Stored output is shown again later, so what would clear the screen or reset
the terminal is taken out, and everything else, colours included, is kept. The
eight sequences taken out are erasing the display (`ESC [ J`, alone or with a
digit 0 to 3), homing the cursor (`ESC [ H`) and the two resets (`ESC [ c`,
`ESC c`). The text is read once from left to right: what two pieces form after
the sequence between them is gone is not looked at again.
-/

namespace Overseer.Log

/-- The escape character. -/
def esc : Char := Char.ofNat 0x1b

/-- The sequences that are taken out. -/
def clearSequences : List (List Char) :=
  [[esc, '[', 'J'], [esc, '[', '0', 'J'], [esc, '[', '1', 'J'], [esc, '[', '2', 'J'],
   [esc, '[', '3', 'J'], [esc, '[', 'H'], [esc, '[', 'c'], [esc, 'c']]

/-- The sequence with which the text begins. -/
def clearSequence? (cs : List Char) : Option (List Char) :=
  clearSequences.find? (·.isPrefixOf cs)

/-- Skips `skip` characters, then takes the sequences out of the rest. -/
def stripFrom (skip : Nat) : List Char → List Char
  | [] => []
  | c :: cs =>
    match skip with
    | n + 1 => stripFrom n cs
    | 0 =>
      match clearSequence? (c :: cs) with
      | some s => stripFrom (s.length - 1) cs
      | none => c :: stripFrom 0 cs

/-- The line without the sequences that clear the screen. -/
def stripClearScreen (line : String) : String := String.ofList (stripFrom 0 line.toList)

end Overseer.Log
