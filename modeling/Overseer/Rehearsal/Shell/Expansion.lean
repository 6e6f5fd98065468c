/-
Overseer.Rehearsal.Shell.Expansion — from words to what they stand for.

A word is expanded to glyphs: characters that know whether they were quoted and
whether they may cut the word, and gaps where one text ends and another begins.
What scripts inside of a word write has to be known beforehand; an expansion
that lacks it stops and names the script. It begins anew when that script has
been heard out, so it has no effects but on the values it gives.
-/
import Overseer.Rehearsal.Shell.Arithmetic
import Overseer.Rehearsal.Shell.Pattern

namespace Overseer.Rehearsal.Shell

/-- A piece of an expanded word. -/
inductive Glyph where
  | char (c : Char) (quoted cuts : Bool)
  /-- Nothing, but the text it stands in is there even if it is empty. -/
  | stay
  /-- The end of one text and the beginning of the next. -/
  | gap
deriving DecidableEq, Repr

/-- What a script inside of a word came to. -/
structure Heard where
  text : String
  status : Nat
deriving DecidableEq, Repr

/-- Why an expansion does not come to its end. -/
inductive Halt where
  /-- A script has to be heard out first. -/
  | script (body : Command) (values : Values)
  | fault (text : String) (values : Values)

/-- An expansion under way. -/
structure Draft where
  values : Values
  /-- What is left to draw on. -/
  heard : List Heard
  /-- How the last script ended, if there was one. -/
  status : Option Nat
  /-- What is expanded, latest first. -/
  out : List Glyph

/-- Expansion, which may set variables. -/
abbrev Expanding := StateT Draft (Except Halt)

/-- Where a word stands. -/
structure Mode where
  /-- Several texts may come of the word. -/
  full : Bool
  /-- What is not quoted may cut the word, as the value of a variable does. -/
  loose : Bool
  /-- A tilde may stand behind colons as well. -/
  colons : Bool

namespace Expanding

/-- The word cannot be expanded. -/
def refuse {α : Type} (text : String) : Expanding α := fun d => .error (.fault text d.values)

/-- Adds glyphs. -/
def add (glyphs : List Glyph) : Expanding Unit :=
  modify fun d => { d with out := glyphs.reverse ++ d.out }

/-- Adds a value. -/
def addValue (quoted : Bool) (text : String) : Expanding Unit := do
  if quoted then add [.stay]
  add (text.toList.map fun c => .char c quoted (!quoted))

/-- Adds texts side by side. -/
def addAll (quoted : Bool) : List String → Expanding Unit
  | [] => return
  | [text] => addValue quoted text
  | text :: rest => do
    addValue quoted text
    add [.gap]
    addAll quoted rest

/-- The values. -/
def values : Expanding Values := do return (← get).values

/-- What a part of an expansion adds, taken out. -/
def inside (expansion : Expanding Unit) : Expanding (List Glyph) := do
  let out := (← get).out
  modify fun d => { d with out := [] }
  expansion
  let glyphs := (← get).out.reverse
  modify fun d => { d with out }
  return glyphs

end Expanding

/-- The characters of glyphs. -/
def charsOf (glyphs : List Glyph) : List Char :=
  glyphs.filterMap fun
    | .char c _ _ => some c
    | _ => none

/-- Glyphs as the characters of a pattern. -/
def patternOf (glyphs : List Glyph) : List PatternChar :=
  glyphs.filterMap fun
    | .char c quoted _ => some ⟨c, quoted⟩
    | _ => none

/-- A value without the newlines at its end. -/
def withoutLastLines (text : String) : String :=
  String.ofList (text.toList.reverse.dropWhile (· == '\n')).reverse

/-- The value counts as missing. -/
def isMissing (orEmpty : Bool) (value? : Option String) : Bool :=
  match value? with
  | none => true
  | some value => orEmpty && value.isEmpty

/-- The homes of users. -/
def homes : List (String × String) :=
  [("root", "/root"), ("daemon", "/usr/sbin"), ("bin", "/bin"), ("sys", "/dev"),
   ("nobody", "/nonexistent")]

/-- The home that a text behind a tilde names. -/
def homeOf? (v : Values) (name : List Char) : Option String :=
  if name.isEmpty then v.get? "HOME" else homes.lookup (String.ofList name)

/-- Adds characters that were not quoted. A tilde that begins the word, or stands
behind a colon where that counts, is a home if its name ends in the same text;
`skip` characters are added already. -/
def addPlain (mode : Mode) (last : Bool) : Nat → Bool → List Char → Expanding Unit
  | _, _, [] => return
  | skip + 1, _, _ :: cs => addPlain mode last skip false cs
  | 0, begins, c :: cs => do
    let name := cs.takeWhile fun d => d != '/' && !(mode.colons && d == ':')
    let v ← Expanding.values
    let isHome := c = '~' ∧ begins ∧ (last ∨ name.length < cs.length)
    let home? := if isHome then homeOf? v name else none
    match home? with
    | some home =>
      Expanding.add (home.toList.map fun c => .char c true false)
      addPlain mode last name.length false cs
    | none =>
      Expanding.add [.char c false mode.loose]
      addPlain mode last 0 (mode.colons && c == ':') cs

/-- The value of a name, which must not be missing if that is forbidden. -/
def presentValue (name : String) : Expanding String := do
  let v ← Expanding.values
  match v.lookup name with
  | some value => return value
  | none =>
    if v.has 'u' && (v.several? name).isNone then
      Expanding.refuse s!"{name}: parameter not set"
    else return ""

/-- Adds the value of a name; several may be named at once. -/
def addNamed (mode : Mode) (name : String) (quoted : Bool) : Expanding Unit := do
  match (← Expanding.values).several? name with
  | some values =>
    if mode.full ∧ (name ≠ "*" ∨ !quoted) then Expanding.addAll quoted values
    else Expanding.addValue quoted (← presentValue name)
  | none => Expanding.addValue quoted (← presentValue name)

/-- Adds what a function makes of the value of a name. -/
def addChanged (name : String) (quoted : Bool) (f : String → String) : Expanding Unit := do
  Expanding.addValue quoted (f (← presentValue name))

/-- Glyphs as a pattern. -/
def symbolsOf (glyphs : List Glyph) : List Symbol := Symbol.ofChars 0 (patternOf glyphs)

mutual

/-- Expands a part of a word. -/
def expandPart (mode : Mode) : Part → Expanding Unit
  | .plain text => addPlain mode true 0 false text.toList
  | .quoted text => Expanding.addValue true text
  | .output .nothing quoted => Expanding.addValue quoted ""
  | .output script quoted => do
    match (← get).heard with
    | [] => fun d => .error (.script script d.values)
    | heard :: rest =>
      modify fun d => { d with heard := rest, status := some heard.status }
      Expanding.addValue quoted (withoutLastLines heard.text)
  | .number expression quoted => do
    let glyphs ← Expanding.inside (expandParts ⟨false, false, false⟩ false expression)
    match Arithmetic.evaluate (← Expanding.values) (String.ofList (charsOf glyphs)) with
    | .ok (n, values) =>
      modify fun d => { d with values }
      Expanding.addValue quoted (toString n)
    | .error why => Expanding.refuse why
  | .value name treatment quoted => expandValue mode name quoted treatment

/-- Expands a value and what is done about it. -/
def expandValue (mode : Mode) (name : String) (quoted : Bool) : Treatment → Expanding Unit
  | .asIs => addNamed mode name quoted
  | .length => addChanged name quoted fun value => toString value.length
  | .instead orEmpty word => do
    if isMissing orEmpty ((← Expanding.values).lookup name) then
      expandParts { mode with loose := true } true word
    else addNamed mode name quoted
  | .ifSet orEmpty word => do
    if isMissing orEmpty ((← Expanding.values).lookup name) then return
    expandParts { mode with loose := true } true word
  | .assign orEmpty word => do
    if isMissing orEmpty ((← Expanding.values).lookup name) then
      let glyphs ← Expanding.inside (expandParts ⟨false, false, false⟩ true word)
      let value := String.ofList (charsOf glyphs)
      match (← Expanding.values).assign name value with
      | .ok values =>
        modify fun d => { d with values }
        Expanding.addValue quoted value
      | .error why => Expanding.refuse why
    else addNamed mode name quoted
  | .demand orEmpty word => do
    if isMissing orEmpty ((← Expanding.values).lookup name) then
      let glyphs ← Expanding.inside (expandParts ⟨false, false, false⟩ true word)
      let usual := if orEmpty then "parameter not set or null" else "parameter not set"
      let why := if word.isEmpty then usual else String.ofList (charsOf glyphs)
      Expanding.refuse s!"{name}: {why}"
    else addNamed mode name quoted
  | .dropFront longest pattern => do
    let symbols := symbolsOf (← Expanding.inside (expandParts ⟨false, false, false⟩ true pattern))
    addChanged name quoted fun value =>
      String.ofList (withoutFront longest symbols value.toList)
  | .dropBack longest pattern => do
    let symbols := symbolsOf (← Expanding.inside (expandParts ⟨false, false, false⟩ true pattern))
    addChanged name quoted fun value =>
      String.ofList (withoutBack longest symbols value.toList)
  | .unknown => Expanding.refuse "Bad substitution"

/-- Expands the parts of a word; they begin it if that is said. -/
def expandParts (mode : Mode) (begins : Bool) : List Part → Expanding Unit
  | [] => return
  | .plain text :: rest => do
    addPlain mode rest.isEmpty 0 begins text.toList
    expandParts mode false rest
  | part :: rest => do
    expandPart mode part
    expandParts mode false rest

end

/-- Expands a word to a single text. -/
def expandText (colons : Bool) (word : Word) : Expanding String := do
  let glyphs ← Expanding.inside (expandParts ⟨false, false, colons⟩ true word)
  return String.ofList (charsOf glyphs)

/-- Expands a word to a pattern. -/
def expandPattern (word : Word) : Expanding (List Symbol) := do
  return symbolsOf (← Expanding.inside (expandParts ⟨false, false, false⟩ true word))

end Overseer.Rehearsal.Shell
