/-
Overseer.Launch.CommandLine — a shell line as a program and its arguments.

A line that the shell would read as words only is run directly, so that
signals reach the program itself; a line with any character that means
something to the shell is left to `sh -c`, trimmed and otherwise untouched.
-/
import Overseer.Text.Blank

namespace Overseer.Launch

/-- A program and its arguments. -/
structure Command where
  program : String
  args : List String
deriving DecidableEq, Repr, Inhabited

/-- The characters that mean something to the shell. -/
def shellChars : List Char :=
  ['|', '&', ';', '<', '>', '(', ')', '$', Char.ofNat 96, '\\', '"', '\'', '*', '?', '[', ']', '#',
   '~', '=', '%', '\x7b', '\x7d', '\n']

/-- Has to be read by the shell. -/
def needsShell (line : List Char) : Bool := line.any shellChars.contains

/-- The command that a shell line stands for; a blank line gives the empty program. -/
def Command.ofLine (line : String) : Command :=
  let line := Text.trim line.toList
  if needsShell line then ⟨"sh", ["-c", String.ofList line]⟩
  else
    match (Text.words line).map String.ofList with
    | [] => ⟨"", []⟩
    | program :: args => ⟨program, args⟩

/-- The words of a command in one line, as users see it. -/
def Command.display (c : Command) : String := " ".intercalate (c.program :: c.args)

end Overseer.Launch
