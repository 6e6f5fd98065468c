/-
Overseer.Rehearsal.Shell.Syntax — scripts of a command shell.

A word is a list of parts, some of which stand for values that are known only
when the script runs; a script may stand inside a word. Commands know the line
they stand on, because complaints name it. All texts are spelled.
-/
namespace Overseer.Rehearsal.Shell

/-- How a descriptor is led elsewhere. -/
inductive Opening where
  | read
  | write
  /-- To a file even if it is there already and must not be overwritten. -/
  | overwrite
  | extend
  | readWrite
  /-- To where another descriptor leads, or nowhere. -/
  | copy
  /-- To a text that stands in the script. -/
  | document
deriving DecidableEq, Repr

mutual

/-- What is done about the value of a variable. -/
inductive Treatment where
  | asIs
  | length
  /-- Another text if the variable is unset, or with `orEmpty` also if it is empty. -/
  | instead (orEmpty : Bool) (word : List Part)
  /-- The same, and the variable gets that value. -/
  | assign (orEmpty : Bool) (word : List Part)
  /-- The same, and the script ends with a complaint. -/
  | demand (orEmpty : Bool) (word : List Part)
  /-- Another text if the variable is set, and with `orEmpty` not empty. -/
  | ifSet (orEmpty : Bool) (word : List Part)
  /-- Without what matches at its beginning. -/
  | dropFront (longest : Bool) (pattern : List Part)
  /-- Without what matches at its end. -/
  | dropBack (longest : Bool) (pattern : List Part)
  /-- Nothing that is known. -/
  | unknown

/-- A part of a word. -/
inductive Part where
  | plain (text : String)
  | quoted (text : String)
  | value (name : String) (treatment : Treatment) (quoted : Bool)
  | output (script : Command) (quoted : Bool)
  | number (expression : List Part) (quoted : Bool)

/-- A descriptor that is led elsewhere. -/
inductive Redirect where
  | to (descriptor : Nat) (opening : Opening) (target : List Part)

/-- A variable that is set. -/
inductive Setting where
  | of (name : String) (value : List Part)

/-- Patterns and what is done about a text that matches one of them. -/
inductive Arm where
  | of (patterns : List (List Part)) (body : Command)

/-- A command. -/
inductive Command where
  | nothing
  | simple (line : Nat) (settings : List Setting) (words : List (List Part))
    (redirects : List Redirect)
  | chain (first second : Command)
  | both (first second : Command)
  | either (first second : Command)
  | negated (body : Command)
  | background (body : Command)
  | piped (commands : List Command)
  | grouped (line : Nat) (body : Command) (redirects : List Redirect)
  | inner (line : Nat) (body : Command) (redirects : List Redirect)
  | choice (condition yes no : Command)
  /-- Repeats the body as long as the condition's success is as wanted. -/
  | loop (wanted : Bool) (condition body : Command)
  | each (line : Nat) (name : String) (words : List (List Part)) (body : Command)
  /-- Runs the body of the first arm that the subject matches. -/
  | distinguish (line : Nat) (subject : List Part) (arms : List Arm)
  | define (name : String) (body : Command)

end

instance : Inhabited Command := ⟨.nothing⟩

/-- A word, before it is expanded. -/
abbrev Word := List Part

/-- The name of a variable that is set. -/
def Setting.name : Setting → String
  | .of name _ => name

/-- Why a script cannot be read, and on which line. -/
structure SyntaxFault where
  line : Nat
  text : String
deriving DecidableEq, Repr

/-- The cause in words. -/
def SyntaxFault.message (f : SyntaxFault) : String := s!"Syntax error: {f.text}"

end Overseer.Rehearsal.Shell
