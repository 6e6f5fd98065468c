/-
Overseer.Report.Table — rows in a frame with round corners.

Each column is as wide as its widest line; every cell is aligned to the left
and has a blank on either side. A cell may take several lines, and a row is as
high as its highest cell.
-/
import Overseer.Text.Pieces
import Overseer.Text.Width

namespace Overseer.Report

/-- The lines of a cell. -/
def cellLines (cell : String) : List (List Char) := Text.pieces (· == '\n') cell.toList

/-- How many columns a cell takes. -/
def cellWidth (cell : String) : Nat := ((cellLines cell).map Text.width).foldl max 0

/-- The widths of the columns of a table. -/
def columnWidths (rows : List (List String)) : List Nat :=
  let count := (rows.map List.length).foldl max 0
  (List.range count).map fun i => (rows.map fun row => cellWidth (row[i]?.getD "")).foldl max 0

/-- A text with blanks up to a width, and one blank on either side. -/
def padCell (width : Nat) (text : List Char) : List Char :=
  ' ' :: text ++ List.replicate (width - Text.width text + 1) ' '

/-- One line of the frame. -/
def rule (left mid right : Char) (widths : List Nat) : List Char :=
  left :: List.intercalate [mid] (widths.map fun w => List.replicate (w + 2) '─') ++ [right]

/-- One line of a row. -/
def rowLine (widths : List Nat) (texts : List (List Char)) : List Char :=
  '│' :: List.intercalate ['│'] ((widths.zip texts).map fun wt => padCell wt.1 wt.2) ++ ['│']

/-- The lines of a row. -/
def rowLines (widths : List Nat) (row : List String) : List (List Char) :=
  let cells := row.map cellLines
  let height := (cells.map List.length).foldl max 1
  (List.range height).map fun i => rowLine widths (cells.map fun lines => lines[i]?.getD [])

/-- The table with the given head and rows. -/
def table (head : List String) (rows : List (List String)) : String :=
  let widths := columnWidths (head :: rows)
  let body := match rows with
    | [] => []
    | _ => rule '├' '┼' '┤' widths :: rows.flatMap (rowLines widths)
  String.ofList (List.intercalate ['\n']
    (rule '╭' '┬' '╮' widths :: rowLines widths head ++ body ++ [rule '╰' '┴' '╯' widths]))

end Overseer.Report
