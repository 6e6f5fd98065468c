/-
Overseer.Path — names of files and directories.

A path is a text; its parts are the runs between slashes, where `.` and empty
runs mean nothing and `..` goes up. `normalize` reads a path without asking any
disk: `..` takes back the part before it and does nothing at the top. The
normal form of a path is fixed by whether it is absolute and by its list of
names, so two spellings of one directory have one normal form.
-/
import Overseer.Text.Pieces

namespace Overseer

/-- The name of a file or directory. -/
structure Path where
  text : String
deriving DecidableEq, Repr, Inhabited

namespace Path

/-- What one part of a path asks for. -/
inductive Step where
  | up
  | down (name : List Char)
deriving DecidableEq, Repr

/-- Reads one part; `.` asks for nothing. -/
def Step.ofPart? (part : List Char) : Option Step :=
  if part = ['.'] then none
  else if part = ['.', '.'] then some .up
  else some (.down part)

/-- The steps of a path, from left to right. -/
def steps (p : Path) : List Step :=
  (Text.fields (· == '/') p.text.toList).filterMap Step.ofPart?

/-- Starts at the top of the file system. -/
def isAbsolute (p : Path) : Bool := p.text.toList.head? == some '/'

/-- Takes one step from the directory whose names, innermost first, are given. -/
def walk (names : List (List Char)) : Step → List (List Char)
  | .up => names.tail
  | .down name => name :: names

/-- The names left when every step is taken, outermost first. -/
def names (p : Path) : List (List Char) := (p.steps.foldl walk []).reverse

/-- The path with the given names. -/
def ofNames (absolute : Bool) (names : List (List Char)) : Path :=
  ⟨String.ofList ((if absolute then ['/'] else []) ++ List.intercalate ['/'] names)⟩

/-- The path without `.`, `..`, repeated or trailing slashes. -/
def normalize (p : Path) : Path := ofNames p.isAbsolute p.names

/-- The path `q` seen from the directory `p`. -/
def join (p q : Path) : Path :=
  if q.isAbsolute then q
  else if p.text.isEmpty || p.text.toList.getLast? == some '/' then ⟨p.text ++ q.text⟩
  else ⟨p.text ++ "/" ++ q.text⟩

/-- The normal form of a path seen from the working directory. -/
def absolute (workingDirectory p : Path) : Path :=
  if p.isAbsolute then p.normalize else (workingDirectory.join p).normalize

/-- The beginnings of a list, longest first; the list itself is one of them. -/
def beginnings {α : Type} (xs : List α) : List (List α) :=
  (List.range (xs.length + 1)).reverse.map xs.take

/-- A directory and those above it, innermost first. -/
def ancestors (p : Path) : List Path := (beginnings p.names).map (ofNames p.isAbsolute)

/-- How far below its start a walk along `steps` is; `none` if it ever climbs above. The
number is not bounded: one of 32 bits with sign would count the same up to 2 ^ 31 - 1
names, of which no path that a system takes has as many. -/
def depth? (steps : List Step) : Option Nat :=
  steps.foldlM (fun (d : Nat) (s : Step) =>
    match s with
    | .up => if d = 0 then none else some (d - 1)
    | .down _ => some (d + 1)) 0

/-- Relative, and never above the directory it starts in. -/
def staysInside (p : Path) : Bool := !p.isAbsolute && (depth? p.steps).isSome

/-- Begins with a part that is `.`, from which a relative path is told apart. -/
def beginsHere (p : Path) : Bool := (Text.pieces (· == '/') p.text.toList).head? == some ['.']

/-- Two spellings of the same parts, such as with and without a slash at the end. -/
def sameParts (p q : Path) : Bool :=
  p.isAbsolute == q.isAbsolute && p.beginsHere == q.beginsHere && p.steps == q.steps

end Path

end Overseer
