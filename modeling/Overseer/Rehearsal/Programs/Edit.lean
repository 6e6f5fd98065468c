/-
Overseer.Rehearsal.Programs.Edit — lines that are searched, and edited by a script.

Searching shows the lines that match one of several expressions. A script is a row of
instructions that are applied to one line after the other; each may be bound to a line by its
number or by what it holds.
-/
import Overseer.Rehearsal.Programs.Digest
import Overseer.Rehearsal.Programs.Regex

namespace Overseer.Rehearsal

/-! ## 1. Searching -/

/-- Searches lines. -/
def searcher (args : List String) : Except Refusal Digest := do
  let given ← readOptions "grep" (optionSet "Evcnq" "e") args 2
  let (patterns, files) ← match given.values 'e', given.operands with
    | [], [] => .error (Refusal.mk
        ["Usage: grep [OPTION]... PATTERNS [FILE]...", helpHint "grep"] 2)
    | [], pattern :: files => .ok ([pattern], files)
    | patterns, files => .ok (patterns, files)
  let regexes ← patterns.mapM fun text =>
    match Regex.ofText (given.has 'E') text with
    | .ok r => .ok r
    | .error fault => .error (Refusal.mk [s!"grep: {fault.message}"] 2)
  let isMatch (line : List Char) : Bool := (regexes.any (·.holds line)) != given.has 'v'
  .ok {
    files
    isEnough := fun _ => false
    make := fun docs =>
      let lines := (docs.flatMap fun d => lineTexts d.chars).zipIdx 1
      let found := lines.filter fun l => isMatch l.1
      let complaints := complaintsAbout docs "grep"
      let out := if given.has 'q' then []
        else if given.has 'c' then withNewline (toString found.length).toList
        else found.flatMap fun (line, n) =>
          (if given.has 'n' then (toString n).toList ++ [':'] else []) ++ withNewline line
      ⟨out, complaints, if !complaints.isEmpty then 2 else if found.isEmpty then 1 else 0⟩ }

/-! ## 2. Scripts -/

namespace Edit

/-- A line that an instruction is bound to. -/
inductive Address where
  | every
  | line (number : Nat)
  | last
  | holding (regex : Regex)

/-- A piece of what is put in place of a match. -/
inductive Piece where
  | text (c : Char)
  /-- What a group matched; number 0 is the whole match. -/
  | group (number : Nat)

/-- What is done to a line. -/
inductive Action where
  | print
  | delete
  | quit
  | substitute (regex : Regex) (pieces : List Piece) (all : Bool)

/-- An instruction. -/
structure Instruction where
  address : Address
  action : Action

/-- Why a script cannot be read, after how many characters. -/
structure Fault where
  position : Nat
  text : String

/-- Reading a script. -/
abbrev Reading := StateT (List Char) (Except Fault)

/-- How a script is written. -/
structure Manner where
  extended : Bool
  /-- How many characters the script has. -/
  size : Nat

namespace Manner

variable (m : Manner)

/-- The script cannot be read. -/
def refuse {α : Type} (text : String) : Reading α := fun cs =>
  .error ⟨m.size - cs.length, text⟩

/-- Takes characters as long as they are of a kind. -/
def takeWhile (kind : Char → Bool) : Reading (List Char) := fun cs =>
  .ok (cs.takeWhile kind, cs.dropWhile kind)

/-- The text up to a delimiter; a backslash takes the delimiter's meaning away. -/
def upTo (delimiter : Char) : List Char → Option (List Char × List Char)
  | [] => none
  | '\\' :: c :: cs => (upTo delimiter cs).map fun (text, rest) =>
    (if c = delimiter then c :: text else '\\' :: c :: text, rest)
  | c :: cs =>
    if c = delimiter then some ([], cs)
    else (upTo delimiter cs).map fun (text, rest) => (c :: text, rest)

/-- Takes the text up to a delimiter. -/
def delimited (delimiter : Char) (complaint : String) : Reading (List Char) := do
  match upTo delimiter (← get) with
  | some (text, rest) =>
    set rest
    return text
  | none =>
    set ([] : List Char)
    m.refuse complaint

/-- An expression to look for, from its text. -/
def regex (text : List Char) : Reading Regex :=
  match Regex.ofText m.extended (String.ofList text) with
  | .ok r => return r
  | .error fault => m.refuse fault.message

/-- Takes an address, if one comes next. -/
def address : Reading Address := do
  match ← get with
  | '$' :: rest =>
    set rest
    return .last
  | '/' :: rest =>
    set rest
    return .holding (← m.regex (← m.delimited '/' "unterminated address regex"))
  | _ =>
    let digits ← takeWhile Char.isDigit
    return if digits.isEmpty then .every else .line (Text.digitsAfter 0 digits)

/-- What is put in place of a match, from its text. -/
def pieces : List Char → List Piece
  | [] => []
  | '\\' :: c :: cs =>
    (if c.isDigit then .group (c.toNat - 48) else .text (if c = 'n' then '\n' else c)) :: pieces cs
  | '&' :: cs => .group 0 :: pieces cs
  | c :: cs => .text c :: pieces cs

/-- Takes a substitution, behind its letter. -/
def substitution : Reading Action := do
  let broken := "unterminated \x60s' command"
  match ← get with
  | [] => m.refuse broken
  | delimiter :: rest =>
    set rest
    let text ← m.delimited delimiter broken
    let new ← m.delimited delimiter broken
    let flags ← takeWhile (· == 'g')
    return .substitute (← m.regex text) (pieces new) (!flags.isEmpty)

/-- Takes the action of a letter. -/
def action : Reading Action := do
  match ← get with
  | [] => m.refuse "missing command"
  | letter :: rest =>
    set rest
    match letter with
    | 'p' => return .print
    | 'd' => return .delete
    | 'q' => return .quit
    | 's' => m.substitution
    | c => m.refuse ("unknown command: \x60" ++ String.singleton c ++ "'")

/-- Reads instructions; there are not more of them than `fuel`. -/
def instructions : Nat → Reading (List Instruction)
  | 0 => return []
  | fuel + 1 => do
    let _ ← takeWhile fun c => c.isWhitespace || c == ';'
    if (← get).isEmpty then return []
    let address ← m.address
    let action ← m.action
    let rest ← takeWhile fun c => c != ';' && c != '\n'
    if !rest.all Char.isWhitespace then m.refuse "extra characters after command"
    return ⟨address, action⟩ :: (← instructions fuel)

end Manner

/-- Reads a script. -/
def ofText (extended : Bool) (text : String) : Except Fault (List Instruction) := do
  let m : Manner := ⟨extended, text.length⟩
  let (instructions, _) ← (m.instructions (text.length + 1)).run text.toList
  return instructions

/-! ## 3. Runs -/

/-- A line while instructions are applied to it. -/
structure Run where
  space : List Char
  /-- The lines that are written, latest first. -/
  written : List (List Char)
  deleted : Bool
  quits : Bool

/-- What is put in place of a match. -/
def replacement (hit : Regex.Hit) (pieces : List Piece) : List Char :=
  pieces.flatMap fun
    | .text c => [c]
    | .group 0 => hit.text
    | .group n => (hit.groups.lookup n).getD []

/-- Substitutes the first match in a line, or all of them. -/
def substituted (regex : Regex) (pieces : List Piece) (all : Bool) (line : List Char) :
    List Char :=
  let hits := regex.hits (if all then line.length + 1 else 1) none line
  let rest := (hits.getLast?.map (·.rest)).getD line
  (hits.flatMap fun hit => hit.front ++ replacement hit pieces) ++ rest

/-- Applies an instruction to a line of a number. -/
def Instruction.apply (number : Nat) (isLast : Bool) (r : Run) (i : Instruction) : Run :=
  let isHere : Bool := match i.address with
    | .every => true
    | .line n => n == number
    | .last => isLast
    | .holding regex => regex.holds r.space
  if r.deleted || r.quits || !isHere then r
  else match i.action with
    | .print => { r with written := r.space :: r.written }
    | .delete => { r with deleted := true }
    | .quit => { r with quits := true }
    | .substitute regex pieces all => { r with space := substituted regex pieces all r.space }

/-- Edits lines, of which so many come before. -/
def editLines (quiet : Bool) (program : List Instruction) : Nat → List TextLine → List TextLine
  | _, [] => []
  | before, line :: rest =>
    let r := program.foldl (Instruction.apply (before + 1) rest.isEmpty)
      ⟨line.text, [], false, false⟩
    let written := if quiet || r.deleted then r.written else r.space :: r.written
    written.reverse.map (TextLine.mk · line.ended)
      ++ if r.quits then [] else editLines quiet program (before + 1) rest

end Edit

/-- Edits lines. -/
def editor (args : List String) : Except Refusal Digest := do
  let given ← readOptions "sed" (optionSet "nE" "e") args 1
  let (scripts, files) ← match given.values 'e', given.operands with
    | [], [] => .error (Refusal.mk
        ["Usage: sed [OPTION]... \x7bscript-only-if-no-other-script\x7d [input-file]..."] 1)
    | [], script :: files => .ok ([script], files)
    | scripts, files => .ok (scripts, files)
  match Edit.ofText (given.has 'E') ("\n".intercalate scripts) with
  | .error fault => .error ⟨[s!"sed: -e expression #1, char {fault.position}: {fault.text}"], 1⟩
  | .ok program => .ok (allFiles "sed" files fun cs =>
    (Edit.editLines (given.has 'n') program 0 (linesOf cs)).flatMap TextLine.full)

end Overseer.Rehearsal
