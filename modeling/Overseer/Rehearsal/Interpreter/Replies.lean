/-
Overseer.Rehearsal.Interpreter.Replies — commands of a shell that only ask or change the shell.

Each of them is a function of the shell and its arguments. It gives the shell
afterwards, what it writes and how it ends, or the fault for which it is refused.
-/
import Overseer.Rehearsal.Interpreter.Listing

namespace Overseer.Rehearsal

open Shell

/-- What a command of a shell comes to. -/
structure Reply where
  shell : Interpreter
  out : List UInt8
  /-- Complaints in the shell's name. -/
  complaints : List String
  /-- Lines among the complaints that are in nobody's name. -/
  notes : List String
  status : Nat

/-- A reply, or the fault for which the command is refused. -/
abbrev Answer := Except String Reply

/-- Options of a command of a shell: single letters in front of the operands. -/
def shellOptions (flags valued : String) (args : List String) : Except String Given :=
  match (frontOptions flags valued).read 0 args with
  | .ok given => .ok given
  | .error (.unknown c) => .error s!"Illegal option -{c}"
  | .error (.unknownWord _) => .error "Illegal option --"
  | .error (.valueMissing c) => .error s!"No arg for -{c} option"

/-- Directories are meant as they lie, and not as they were named. -/
def isPhysical (given : Given) : Bool := (given.options.getLast?).any (·.1 == 'P')

/-- A number that is not negative. -/
def shellNumber (text : String) : Except String Nat :=
  match Arithmetic.decimal? text with
  | some n => if 0 ≤ n ∧ n ≤ 2147483647 then .ok n.toNat else .error s!"Illegal number: {text}"
  | none => .error s!"Illegal number: {text}"

namespace Interpreter

variable (sh : Interpreter)

/-- Writes nothing. -/
def done (status : Nat) : Answer := .ok ⟨sh, [], [], [], status⟩

/-- Writes lines. -/
def shows (lines : List String) (status : Nat) : Answer :=
  .ok ⟨sh, octetsOf (String.join (lines.map (· ++ "\n"))), [], [], status⟩

/-- Goes on with other values. -/
def withValues (values : Values) : Interpreter := { sh with values }

/-! ## 1. Texts -/

/-- Writes by a format. -/
def answerPrintf (args : List String) : Answer := do
  match (← shellOptions "" "" args).operands with
  | [] => throw "usage: printf format [arg ...]"
  | format :: rest =>
    let w := printf sh.values.formats format rest
    let complaints := w.misfits.map fun
      | .noNumber a => s!"{a}: expected numeric value"
      | .notWhole a => s!"{a}: not completely converted"
      | .outOfRange a => s!"{a}: Numerical result out of range"
    let status := if w.broken.isSome then 2 else if complaints.isEmpty then 0 else 1
    return ⟨sh, w.octets, complaints ++ w.broken.toList, [], status⟩

/-- Evaluates a condition. -/
def answerTest (tree : FileTree) (args : List String) : Answer := do
  sh.done (if ← Condition.evaluate tree args then 0 else 1)

/-! ## 2. Variables -/

/-- A variable that is given as `name` or `name=value`. -/
def declareOne (mark : Values → String → Values) (v : Values) (arg : String) :
    Except String Values := do
  let name := String.ofList (arg.toList.takeWhile (· != '='))
  if !isName name then throw s!"{name}: bad variable name"
  let v ← if name.length < arg.length then
      v.assign name (String.ofList (arg.toList.drop (name.length + 1)))
    else pure v
  return mark v name

/-- Hands on variables, or protects them; shows those that are if none is named. -/
def answerDeclare (name : String) (args : List String) : Answer := do
  let given ← shellOptions "p" "" args
  let v := sh.values
  let hands := name == "export"
  if given.has 'p' || given.operands.isEmpty then
    sh.shows (variableLines (name ++ " ")
      (v.bindings.filter fun x => if hands then x.exported else x.readOnly)) 0
  else
    let mark := if hands then Values.hand else Values.protect
    let values ← given.operands.foldlM (declareOne mark) v
    (sh.withValues values).done 0

/-- Has a variable put back when the function is left. -/
def keepFor (x : String × Option Variable) : List Frame → List Frame
  | [] => []
  | .leave arguments place saved :: rest =>
    .leave arguments place (if saved.any (·.1 == x.1) then saved else saved ++ [x]) :: rest
  | frame :: rest => frame :: keepFor x rest

/-- Declares variables of a function. -/
def answerLocal (args : List String) : Answer := do
  let isLeft : Frame → Bool
    | .leave .. => true
    | _ => false
  if !(sh.inFunction || sh.frames.any isLeft) then throw "not in a function"
  let sh ← args.foldlM (fun (sh : Interpreter) arg => do
    let name := String.ofList (arg.toList.takeWhile (· != '='))
    let frames := keepFor (name, sh.values.binding? name) sh.frames
    let values ← declareOne (fun v _ => v) sh.values arg
    return { sh with values, frames }) sh
  sh.done 0

/-- Takes variables or functions away. -/
def answerUnset (args : List String) : Answer := do
  let given ← shellOptions "vf" "" args
  if (given.options.getLast?).any (·.1 == 'f') then
    done { sh with functions := sh.functions.filter fun f => !given.operands.contains f.1 } 0
  else
    let values ← given.operands.foldlM (fun (v : Values) name =>
      if isName name then v.unset name else throw s!"{name}: bad variable name") sh.values
    (sh.withValues values).done 0

/-- Shifts the arguments. -/
def answerShift (args : List String) : Answer := do
  let v := sh.values
  let n ← (args.head?.map shellNumber).getD (.ok 1)
  if v.arguments.length < n then throw "can't shift that many"
  let place : OptionPlace := { sh.place with argument := 1, letters := 0 }
  done { sh with values := { v with arguments := v.arguments.drop n }, place } 0

/-! ## 3. Options -/

/-- Sets options by letters that stand together; gives the arguments that are left. -/
def switchLetters (on : Bool) (v : Values) (rest : List String) :
    List Char → Except String (Values × List String)
  | [] => .ok (v, rest)
  | 'o' :: cs =>
    match rest with
    | [] => .ok (v, [])
    | name :: rest =>
      match Values.optionNames.lookup name with
      | some c => switchLetters on (v.switch c on) rest cs
      | none => .error s!"Illegal option -o {name}"
  | c :: cs =>
    if Values.optionLetters.contains c then switchLetters on (v.switch c on) rest cs
    else .error s!"Illegal option -{c}"

/-- Sets options, at most so many times, and then arguments. -/
def switchAll : Nat → Values → List String → Except String Values
  | 0, v, _ => .ok v
  | _, v, [] => .ok v
  | fuel + 1, v, arg :: rest =>
    match arg.toList with
    | ['-'] =>
      let v := (v.switch 'x' false).switch 'v' false
      .ok (if rest.isEmpty then v else { v with arguments := rest })
    | ['-', '-'] => .ok { v with arguments := rest }
    | '-' :: cs => do
      let (v, rest) ← switchLetters true v rest cs
      switchAll fuel v rest
    | '+' :: cs => do
      let (v, rest) ← switchLetters false v rest cs
      switchAll fuel v rest
    | _ => .ok { v with arguments := arg :: rest }

/-- Sets options and arguments, or shows the variables. -/
def answerSet (args : List String) : Answer := do
  let v := sh.values
  if args.isEmpty then
    sh.shows (variableLines "" (v.bindings.filter (·.value.isSome))) 0
  else
    let v ← switchAll args.length v args
    let complaints := if v.has 'm' then ["can't access tty; job control turned off"] else []
    let place : OptionPlace := { sh.place with argument := 1, letters := 0 }
    return ⟨{ sh with values := v.switch 'm' false, place }, [], complaints, [], 0⟩

/-- The next letter that was asked for: what is read of it, and what is said. -/
structure Letter where
  found : Char
  value : Option String
  place : Nat × Nat
  notes : List String
  isOver : Bool

/-- Reads the next letter of arguments; `place` says where it stands. -/
def nextLetter (wanted : List Char) (args : List String) (place : Nat × Nat) : Letter :=
  let quiet := wanted.head? == some ':'
  let wanted := if quiet then wanted.tail else wanted
  let under := if place.2 = 0 then [] else ((args[place.1 - 2]?).getD "").toList.drop place.2
  let (cs, index, before) := if under.isEmpty then
      (((args[place.1 - 1]?).getD "").toList, place.1 + 1, 0)
    else ('-' :: under, place.1, place.2 - 1)
  match cs with
  | '-' :: c :: rest =>
    if under.isEmpty && c == '-' && rest.isEmpty then ⟨'?', none, (index, 0), [], true⟩
    else
      let next := (index, if rest.isEmpty then 0 else before + 2)
      match wanted.dropWhile (· != c) with
      | [] =>
        if quiet then ⟨'?', some (String.singleton c), next, [], false⟩
        else ⟨'?', none, next, [s!"Illegal option -{c}"], false⟩
      | _ :: ':' :: _ =>
        if !rest.isEmpty then ⟨c, some (String.ofList rest), (index, 0), [], false⟩
        else match args[index - 1]? with
          | some value => ⟨c, some value, (index + 1, 0), [], false⟩
          | none =>
            if quiet then ⟨':', some (String.singleton c), (index, 0), [], false⟩
            else ⟨'?', none, (index, 0), [s!"No arg for -{c} option"], false⟩
      | _ => ⟨c, some "", next, [], false⟩
  | _ => ⟨'?', sh.values.get? "OPTARG", (place.1, 0), [], true⟩

/-- Reads the next option of the arguments into a variable. -/
def answerGetopts (args : List String) : Answer := do
  match (← shellOptions "" "" args).operands with
  | wanted :: name :: rest =>
    let v := sh.values
    let shown := (v.get? "OPTIND").getD ""
    let place := if shown == sh.place.shown then (sh.place.argument, sh.place.letters)
      else (max 1 ((shown.toNat?).getD 1), 0)
    let letter := sh.nextLetter wanted.toList (if rest.isEmpty then v.arguments else rest) place
    let v := match letter.value with
      | some value => v.set "OPTARG" value
      | none => { v with bindings := v.bindings.filter (·.name != "OPTARG") }
    let shown := toString letter.place.1
    let values ← (v.set "OPTIND" shown).assign name (String.singleton letter.found)
    return ⟨{ sh with values, place := ⟨letter.place.1, letter.place.2, shown⟩ }, [], [],
      letter.notes, if letter.isOver then 1 else 0⟩
  | _ => throw "Usage: getopts optstring var [arg...]"

/-! ## 4. Commands -/

/-- The commands that a shell does itself and whose faults do not end it. -/
def usualBuiltins : List String :=
  ["[", "alias", "cd", "command", "echo", "false", "getopts", "jobs", "kill", "printf", "pwd",
   "read", "test", "true", "type", "ulimit", "umask", "wait"]

/-- A command that a shell does itself. -/
def isBuiltin (name : String) : Bool :=
  usualBuiltins.contains name || specialNames.contains name

/-- The path along which programs are looked for. -/
def searchPath : String := (sh.values.get? "PATH").getD ""

/-- What a name means as a command: in words, or as it could be written; and the status. -/
def describe (tree : FileTree) (inWords : Bool) (name : String) : String × Nat :=
  let plainly (words : String) : String × Nat :=
    (if inWords then name ++ " is " ++ words else name, 0)
  if reservedWords.contains name then plainly "a shell keyword"
  else match sh.aliases.find? (·.1 == name) with
    | some a => (if inWords then name ++ " is an alias for " ++ a.2 else "alias " ++ aliasText a, 0)
    | none =>
      if sh.functions.any (·.1 == name) then plainly "a shell function"
      else if specialNames.contains name then plainly "a special shell builtin"
      else if isBuiltin name then plainly "a shell builtin"
      else
        let found? : Option String :=
          if name.toList.contains '/' then
            if tree.exists? (pathOf name) then some name else none
          else ((findCommand tree sh.searchPath name).toOption).map (·.1)
        match found? with
        | none => (if inWords then name ++ ": not found" else "", 127)
        | some path => plainly path

/-- Says what names mean. -/
def answerType (tree : FileTree) (args : List String) : Answer := do
  let names := (← shellOptions "" "" args).operands
  let told := names.map (sh.describe tree true)
  sh.shows (told.map (·.1)) (if told.all (·.2 == 0) then 0 else 127)

/-- Says what a name means, if that is asked. -/
def answerCommand (tree : FileTree) (args : List String) : Answer := do
  let given ← shellOptions "vV" "" args
  match given.options.getLast?, given.operands with
  | some (c, _), name :: _ =>
    let (text, status) := sh.describe tree (c == 'V') name
    sh.shows (if text.isEmpty then [] else [text]) status
  | _, _ => sh.done 0

/-- Sets or shows words that stand for others. -/
def answerAlias (args : List String) : Answer :=
  if args.isEmpty then sh.shows (sh.aliases.reverse.map aliasText) 0
  else
    let r : Reply := args.foldl (fun r arg =>
      let name := String.ofList (arg.toList.takeWhile (· != '='))
      let others := r.shell.aliases.filter (·.1 != name)
      if name.length < arg.length && !name.isEmpty then
        let value := String.ofList (arg.toList.drop (name.length + 1))
        { r with shell := { r.shell with aliases := (name, value) :: others } }
      else match r.shell.aliases.find? (·.1 == name) with
        | some a => { r with out := r.out ++ octetsOf (aliasText a ++ "\n") }
        | none => { r with notes := r.notes ++ [s!"alias: {arg} not found"], status := 1 })
      ⟨sh, [], [], [], 0⟩
    .ok r

/-! ## 5. Limits -/

/-- Sets or shows the rights that new files do not get. -/
def answerUmask (args : List String) : Answer := do
  match (← shellOptions "" "" args).operands with
  | [] => sh.shows [Mode.fourDigits sh.mask] 0
  | text :: _ =>
    if text.toList.all fun c => '0' ≤ c && c ≤ '7' then
      let n := text.toList.foldl (fun n c => 8 * n + (c.toNat - 48)) 0
      done { sh with mask := n % 512 } 0
    else throw s!"Illegal mode: {text}"

/-- The limits that there are, by their letters; a file may have any size. -/
def limits : List (Char × String) :=
  [('f', "unlimited"), ('s', "8192"), ('c', "0"), ('n', "20000")]

/-- Shows a limit; setting one changes nothing here. -/
def answerUlimit (args : List String) : Answer := do
  let given ← shellOptions "HSfscn" "" args
  let letter := ((given.options.map (·.1)).filter fun c => c != 'H' && c != 'S').getLastD 'f'
  sh.shows (if given.operands.isEmpty then (limits.lookup letter).toList else []) 0

/-! ## 6. Together -/

/-- The answer of a command that only asks or changes the shell; nothing if it does more. -/
def answer? (tree : FileTree) (name : String) (args : List String) : Option Answer :=
  match name with
  | ":" | "true" => some (sh.done 0)
  | "false" => some (sh.done 1)
  | "echo" => some (.ok ⟨sh, echo args, [], [], 0⟩)
  | "printf" => some (sh.answerPrintf args)
  | "test" => some (sh.answerTest tree args)
  | "[" =>
    if args.getLast? == some "]" then some (sh.answerTest tree args.dropLast)
    else some (.error "missing ]")
  | "export" | "readonly" => some (sh.answerDeclare name args)
  | "local" => some (sh.answerLocal args)
  | "unset" => some (sh.answerUnset args)
  | "shift" => some (sh.answerShift args)
  | "set" => some (sh.answerSet args)
  | "getopts" => some (sh.answerGetopts args)
  | "type" => some (sh.answerType tree args)
  | "command" => some (sh.answerCommand tree args)
  | "alias" => some (sh.answerAlias args)
  | "umask" => some (sh.answerUmask args)
  | "ulimit" => some (sh.answerUlimit args)
  | "times" =>
    let line := "0m0.000000s 0m0.000000s"
    some (sh.shows [line, line] 0)
  | "pwd" => some do
    let given ← shellOptions "LP" "" args
    sh.shows [spell (if isPhysical given then tree.workingDirectory else sh.here).text] 0
  | _ => none

end Interpreter

end Overseer.Rehearsal
