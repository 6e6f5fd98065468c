/-
Overseer.Rehearsal.Shell.Source — the text of a script while it is read.

Reading takes characters from the front and counts lines. A backslash at the
end of a line joins the next line to it. The text of a document that stands
below the line is taken out as soon as the document is named; the lines that it
took are counted at the end of that line.
-/
import Overseer.Rehearsal.Shell.Syntax

namespace Overseer.Rehearsal.Shell

/-- What is left of a script. -/
structure Source where
  rest : List Char
  line : Nat
  /-- The lines of documents that were taken out behind this line. -/
  skipped : Nat
  /-- Words that stand for texts where a command begins. -/
  aliases : List (String × String)
  /-- Those of these words whose texts are being read, each with how much of the
script is left behind its text. -/
  inUse : List (String × Nat)
deriving Inhabited

/-- A script from its first line on. -/
def Source.ofText (text : String) : Source :=
  ⟨text.toList, 1, 0, [], []⟩

/-- Reading, which may fail. -/
abbrev Reading := StateT Source (Except SyntaxFault)

namespace Reading

/-- The script cannot be read. -/
def refuse {α : Type} (text : String) : Reading α := fun s =>
  .error ⟨s.line, text⟩

/-- The characters that are left. -/
def rest : Reading (List Char) := do return (← get).rest

/-- The line that is being read. -/
def line : Reading Nat := do return (← get).line

/-- Takes so many characters; those at the ends of lines are counted. -/
def skip : Nat → Reading Unit
  | 0 => return
  | n + 1 => do
    let s ← get
    match s.rest with
    | [] => return
    | '\n' :: rest => set { s with rest, line := s.line + 1 + s.skipped, skipped := 0 }
    | _ :: rest => set { s with rest }
    skip n

/-- Joins lines: takes backslashes at the ends of lines, as many as come next. -/
def joinLines : Nat → Reading Unit
  | 0 => return
  | fuel + 1 => do
    match ← rest with
    | '\\' :: '\n' :: _ =>
      skip 2
      joinLines fuel
    | _ => return

/-- The next character of joined lines, if there is one. -/
def peek? : Reading (Option Char) := do
  let cs ← rest
  joinLines cs.length
  return (← rest).head?

/-- Takes the next character of joined lines. -/
def next? : Reading (Option Char) := do
  let c? ← peek?
  skip 1
  return c?

/-- Takes characters of joined lines as long as they are of a kind. -/
def takeWhile (kind : Char → Bool) : Nat → Reading (List Char)
  | 0 => return []
  | fuel + 1 => do
    match ← peek? with
    | some c =>
      if kind c then
        skip 1
        return c :: (← takeWhile kind fuel)
      else return []
    | none => return []

/-- Takes characters of joined lines as long as they are of a kind, without a bound. -/
def takeAll (kind : Char → Bool) : Reading (List Char) := do
  takeWhile kind (← rest).length

/-- Puts the text of a word that stands for one in its place; not within that text itself. -/
def openAlias (word : String) : Reading Bool := do
  let s ← get
  let inUse := s.inUse.filter fun u => u.2 ≤ s.rest.length
  match s.aliases.lookup word with
  | none => return false
  | some text =>
    if inUse.any (·.1 == word) then return false
    set { s with rest := text.toList ++ s.rest, inUse := (word, s.rest.length) :: inUse }
    return true

end Reading

/-! ## Documents -/

/-- Cuts a text behind the end of its line; what stands in quotes does not end it. -/
def cutLine (quote? : Option Char) : List Char → List Char × List Char
  | [] => ([], [])
  | '\\' :: c :: cs =>
    if quote? = some '\'' then
      let (line, rest) := cutLine (if c = '\'' then none else quote?) cs
      ('\\' :: c :: line, rest)
    else
      let (line, rest) := cutLine quote? cs
      ('\\' :: c :: line, rest)
  | c :: cs =>
    if c = '\n' ∧ quote?.isNone then (['\n'], cs)
    else
      let quote? := match quote? with
        | some q => if c = q then none else quote?
        | none => if c = '\'' ∨ c = '"' then some c else none
      let (line, rest) := cutLine quote? cs
      (c :: line, rest)

/-- The lines of a document up to the one that ends it, the text behind that
one, and how many lines were read; `started` holds the line that is being read, latest
first. -/
def cutDocument (tabs : Bool) (delimiter : List Char) (started : List Char) :
    List Char → List Char × List Char × Nat
  | [] =>
    let line := started.reverse
    let line := if tabs then line.dropWhile (· == '\t') else line
    if line = delimiter then ([], [], 1) else (line, [], 0)
  | c :: cs =>
    if c = '\n' then
      let line := started.reverse
      let line := if tabs then line.dropWhile (· == '\t') else line
      if line = delimiter then ([], cs, 1)
      else
        let (text, rest, lines) := cutDocument tabs delimiter [] cs
        (line ++ '\n' :: text, rest, lines + 1)
    else cutDocument tabs delimiter (c :: started) cs

/-- Takes the text of a document out of the lines behind the one that is being read. -/
def Reading.document (tabs : Bool) (delimiter : List Char) : Reading (List Char) := do
  let s ← get
  let (line, below) := cutLine none s.rest
  if below.isEmpty then return []
  let (text, rest, lines) := cutDocument tabs delimiter [] below
  set { s with rest := line ++ rest, skipped := s.skipped + lines }
  return text

end Overseer.Rehearsal.Shell
