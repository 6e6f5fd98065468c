/-
Overseer.Rehearsal.Shell.Values — what a shell knows by name.

Variables have names of their own; some values are named by a number or a sign:
arguments, the status of the last command, process ids. A variable may have no
value yet and still be handed to programs or be protected from change.
-/
import Overseer.Rehearsal.Octets
import Overseer.Rehearsal.Shell.Lexer

namespace Overseer.Rehearsal.Shell

/-- A variable. -/
structure Variable where
  name : String
  value : Option String
  /-- Programs that are started get it. -/
  exported : Bool
  readOnly : Bool
deriving DecidableEq, Repr

/-- The values that words can name. -/
structure Values where
  /-- The escapes that the shell knows in formats. -/
  formats : Dialect
  bindings : List Variable
  /-- The letters of the options that are set. -/
  options : List Char
  /-- What the shell is called. -/
  name : String
  arguments : List String
  /-- How the last command ended. -/
  status : Nat
  self : Nat
  lastJob : Option Nat

namespace Values

/-- The letters of all options, in the order in which they are shown. -/
def optionLetters : List Char :=
  ['p', 'u', 'b', 'a', 'C', 'E', 'V', 'v', 'x', 's', 'n', 'm', 'i', 'I', 'f', 'e']

/-- The letters of options, by their names. -/
def optionNames : List (String × Char) :=
  [("errexit", 'e'), ("noglob", 'f'), ("ignoreeof", 'I'), ("interactive", 'i'), ("monitor", 'm'),
   ("noexec", 'n'), ("stdin", 's'), ("xtrace", 'x'), ("verbose", 'v'), ("vi", 'V'), ("emacs", 'E'),
   ("noclobber", 'C'), ("allexport", 'a'), ("notify", 'b'), ("nounset", 'u'), ("privileged", 'p'),
   ("nolog", '\x01'), ("debug", '\x02')]

/-- An option is set. -/
def has (v : Values) (option : Char) : Bool := v.options.contains option

/-- Sets an option or takes it back. -/
def switch (v : Values) (option : Char) (on : Bool) : Values :=
  let others := v.options.filter (· != option)
  { v with options := if on then option :: others else others }

/-- The variable of a name. -/
def binding? (v : Values) (name : String) : Option Variable :=
  v.bindings.find? (·.name == name)

/-- The value of a variable. -/
def get? (v : Values) (name : String) : Option String := (v.binding? name).bind (·.value)

/-- The arguments, if they are named all at once. -/
def several? (v : Values) (name : String) : Option (List String) :=
  if name == "@" || name == "*" then some v.arguments else none

/-- What stands between arguments that are named all at once. -/
def separator (v : Values) : String :=
  match v.get? "IFS" with
  | none => " "
  | some text => (text.take 1).toString

/-- The value of a name or a sign. -/
def lookup (v : Values) (name : String) : Option String :=
  match name with
  | "?" => some (toString v.status)
  | "$" => some (toString v.self)
  | "!" => v.lastJob.map toString
  | "#" => some (toString v.arguments.length)
  | "-" => some (String.ofList (optionLetters.filter v.has))
  | "@" | "*" => some (v.separator.intercalate v.arguments)
  | _ =>
    match name.toNat? with
    | some 0 => some v.name
    | some n => v.arguments[n - 1]?
    | none => v.get? name

/-- Puts a variable in place of the one of its name. -/
def put (v : Values) (x : Variable) : Values :=
  { v with bindings := x :: v.bindings.filter (·.name != x.name) }

/-- The variable of a name, or one without a value. -/
def variableOrNew (v : Values) (name : String) : Variable :=
  (v.binding? name).getD ⟨name, none, false, false⟩

/-- Gives a variable a value, whether or not it is protected. -/
def set (v : Values) (name value : String) : Values :=
  let x := v.variableOrNew name
  v.put { x with value := some value, exported := x.exported || v.has 'a' }

/-- A variable is protected from change. -/
def isReadOnly (v : Values) (name : String) : Bool := (v.binding? name).any (·.readOnly)

/-- Gives a variable a value, or says why it cannot have it. -/
def assign (v : Values) (name value : String) : Except String Values :=
  if !isName name then .error s!"{name}: bad variable name"
  else if v.isReadOnly name then .error s!"{name}: is read only"
  else .ok (v.set name value)

/-- Takes a variable away, or says why that is not possible. -/
def unset (v : Values) (name : String) : Except String Values :=
  if v.isReadOnly name then .error s!"{name}: is read only"
  else .ok { v with bindings := v.bindings.filter (·.name != name) }

/-- Has a variable handed to programs. -/
def hand (v : Values) (name : String) : Values :=
  v.put { v.variableOrNew name with exported := true }

/-- Protects a variable from change. -/
def protect (v : Values) (name : String) : Values :=
  v.put { v.variableOrNew name with readOnly := true }

/-- The group in which a name is handed on; there are 39. -/
def group (name : String) : Nat :=
  let codes := name.toList.map Char.toNat
  codes.foldl (· + ·) (16 * codes.headD 0) % 39

/-- What is handed to programs: names and values, a group of names after the other. -/
def handed (v : Values) : List (String × String) :=
  let given := v.bindings.reverse.filterMap fun x =>
    if x.exported then x.value.map (x.name, ·) else none
  given.mergeSort fun a b => decide (group a.1 ≤ group b.1)

/-- Puts the variables of some names back to what they were. -/
def giveBack (v : Values) (saved : List (String × Option Variable)) : Values :=
  saved.foldl (fun v (name, x?) =>
    { v with bindings := x?.toList ++ v.bindings.filter (·.name != name) }) v

end Values

end Overseer.Rehearsal.Shell
