/-
Overseer.Rehearsal.Programs.Digest — programs that read and then write.

Such a program reads files to their ends, or at least as far as it needs, and
what it writes is a function of what it has read. It is made from its arguments,
or it refuses them.
-/
import Overseer.Fault
import Overseer.Rehearsal.Programs.Options

namespace Overseer.Rehearsal

/-! ## 1. Lines -/

/-- A line, and whether it ends with a newline. -/
structure TextLine where
  text : List Char
  ended : Bool

/-- Cuts a text into lines. -/
def linesOf (cs : List Char) : List TextLine := go [] cs
where
  /-- The characters of the line under way are kept latest first. -/
  go (held : List Char) : List Char → List TextLine
    | [] => if held.isEmpty then [] else [⟨held.reverse, false⟩]
    | c :: cs => if c = '\n' then ⟨held.reverse, true⟩ :: go [] cs else go (c :: held) cs

/-- A line that is ended. -/
def withNewline (cs : List Char) : List Char := cs ++ ['\n']

/-- A line with its end. -/
def TextLine.full (l : TextLine) : List Char := if l.ended then withNewline l.text else l.text

/-- Lines without their ends. -/
def lineTexts (cs : List Char) : List (List Char) := (linesOf cs).map (·.text)

/-- A number with blanks in front. -/
def padded (width n : Nat) : List Char :=
  let digits := (toString n).toList
  List.replicate (width - digits.length) ' ' ++ digits

/-! ## 2. Reading and writing -/

/-- A file that a program reads: its name, and what it holds or why it cannot be read. -/
structure Document where
  name : String
  content : Except OsError (List UInt8)

/-- The characters that a file holds. -/
def Document.chars (d : Document) : List Char :=
  match d.content with
  | .ok octets => (spelled octets).toList
  | .error _ => []

/-- What a program makes of what it has read. -/
structure Outcome where
  out : List Char
  complaints : List String
  code : Nat

/-- A program that reads and then writes. -/
structure Digest where
  /-- The files that are read; the input if there are none. -/
  files : List String
  make : List Document → Outcome
  /-- What was read of a file is enough of it. -/
  isEnough : List Char → Bool

/-- Complaints with which a program ends at once. -/
structure Refusal where
  complaints : List String
  code : Nat

/-- A refusal as an outcome. -/
def Refusal.outcome (r : Refusal) : Outcome := ⟨[], r.complaints, r.code⟩

/-- Lines that a program writes before it ends well. -/
def answerLines (lines : List String) : Outcome :=
  ⟨lines.flatMap fun l => withNewline l.toList, [], 0⟩

/-- Where to look for help. -/
def helpHint (name : String) : String := s!"Try '{name} --help' for more information."

/-- Refuses arguments and says where to look for help. -/
def refuseArguments {α : Type} (name text : String) (code : Nat) : Except Refusal α :=
  .error ⟨[s!"{name}: {text}", helpHint name], code⟩

/-- Reads options, or refuses them. -/
def readOptions (name : String) (set : OptionSet) (args : List String) (code : Nat) :
    Except Refusal Given :=
  match set.read 0 args with
  | .ok given => .ok given
  | .error fault => refuseArguments name fault.message code

/-- The complaints about files that cannot be read. -/
def complaintsAbout (docs : List Document) (name : String) : List String :=
  docs.filterMap fun d =>
    match d.content with
    | .ok _ => none
    | .error e => some s!"{name}: {d.name}: {e.text}"

/-- The outcome of a program that turns all that it reads into one text. -/
def outcomeOf (name : String) (docs : List Document) (out : List Char) : Outcome :=
  let complaints := complaintsAbout docs name
  ⟨out, complaints, if complaints.isEmpty then 0 else 1⟩

/-- A program that turns each file into a text. -/
def eachFile (name : String) (files : List String) (f : List Char → List Char) : Digest where
  files := files
  make docs := outcomeOf name docs (docs.flatMap fun d => f d.chars)
  isEnough _ := false

/-- A program that turns all files together into a text. -/
def allFiles (name : String) (files : List String) (f : List Char → List Char) : Digest where
  files := files
  make docs := outcomeOf name docs (f (docs.flatMap Document.chars))
  isEnough _ := false

end Overseer.Rehearsal
