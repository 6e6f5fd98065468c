/-
Overseer.Wrapper.Reader — a child's output, cut into lines.

Octets come in as the child writes them, in pieces of any size. A line is what
stands before a newline; what stands after the last one is a line as well, once
the output is closed. A line is read as text whatever its octets are, and the
carriage returns and newlines at its end are taken off.
-/
import Overseer.Record.Log
import Overseer.Text.Utf8

namespace Overseer.Wrapper

/-- The two outputs of a child. -/
inductive Stream where
  | out
  | err
deriving DecidableEq, Repr

/-- How lines of an output are stored. -/
def Stream.type : Stream → LogType
  | .out => .stdout
  | .err => .stderr

/-- A line that a child wrote. -/
structure Line where
  stream : Stream
  text : String
deriving DecidableEq, Repr

/-- Ends a line, or belongs to its end. -/
def isLineEnd (c : Char) : Bool := c == '\n' || c == '\r'

/-- The text of a line, from its octets. -/
def lineText (octets : List UInt8) : String :=
  String.ofList ((Text.Utf8.decode octets).reverse.dropWhile isLineEnd).reverse

/-- Reads an output; it holds the octets after the last newline, latest first. -/
structure Reader where
  held : List UInt8
deriving DecidableEq

namespace Reader

/-- Has read nothing yet. -/
def empty : Reader := ⟨[]⟩

/-- Takes one octet; with a newline a line comes out. The lines are kept latest first. -/
def takeOctet (s : List String × Reader) (b : UInt8) : List String × Reader :=
  if b = 10 then (lineText s.2.held.reverse :: s.1, empty) else (s.1, ⟨b :: s.2.held⟩)

/-- Takes octets and gives the lines that they end. -/
def feed (r : Reader) (octets : List UInt8) : List String × Reader :=
  let (lines, r) := octets.foldl takeOctet ([], r)
  (lines.reverse, r)

/-- The line that is left when the output is closed, if anything is. -/
def close (r : Reader) : List String :=
  if r.held.isEmpty then [] else [lineText r.held.reverse]

end Reader

/-- The lines of all that was written to an output. -/
def linesOf (octets : List UInt8) : List String :=
  let (lines, r) := Reader.empty.feed octets
  lines ++ r.close

end Overseer.Wrapper
