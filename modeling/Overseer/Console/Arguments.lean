/-
Overseer.Console.Arguments — from words on a command line to a request.

Words are read from left to right. A word with two dashes is a long option,
one with a single dash a row of short ones, `--` ends the options, and every
other word is the value of the option before it or the next positional value.
A value is only looked at when the next word shows that it is complete, so that
of two mistakes the one noticed first is reported. Which options and values
there are is laid down in one table of commands.
-/
import Overseer.Console.Request
import Overseer.Text.Decimal
import Overseer.Word

namespace Overseer.Console

/-! ## 1. What can be given -/

/-- Why there is no request. -/
inductive Refusal where
  | unknownArgument
  | invalidSubcommand
  | missingArgument
  | missingSubcommand
  | conflict
  | badValue
  | noValue
  | tooManyValues
  | help
  | version
  | helpForNothing
deriving DecidableEq, Repr

/-- The exit code that goes with a refusal: asking for help is no mistake. -/
def Refusal.exitCode : Refusal → Nat
  | .help | .version => 0
  | _ => 2

/-- What a value has to be. -/
inductive Kind where
  | text
  | path
  | int64
  | nat64
  | port
deriving DecidableEq

/-- A place for values. -/
structure Slot where
  name : String
  kind : Kind
  many : Bool
deriving DecidableEq

/-- What an option does. -/
inductive Effect where
  | flag
  | count
  | value (kind : Kind)
  | help
  | version
deriving DecidableEq

/-- An option. -/
structure Choice where
  name : String
  long : String
  short : Option Char
  effect : Effect

/-- A command: its word, other words for it, its options and its positional values. -/
structure Grammar where
  words : List String
  choices : List Choice
  places : List (Slot × Bool)

/-- A positional value that may be missing. -/
def place (name : String) : Slot × Bool := (⟨name, .text, false⟩, false)

/-- A positional value that has to be given. -/
def requiredPlace (name : String) (kind : Kind) : Slot × Bool := (⟨name, kind, false⟩, true)

/-- The options of every command. -/
def globalChoices : List Choice :=
  [⟨"json", "json", none, .flag⟩, ⟨"verbose", "verbose", some 'v', .count⟩,
   ⟨"help", "help", some 'h', .help⟩]

/-- The options in front of the command. -/
def topChoices : List Choice := globalChoices ++ [⟨"version", "version", some 'V', .version⟩]

/-- The option that ends a watch after a time. -/
def exitAfterChoice : Choice := ⟨"exit_after", "exit-after", none, .value .nat64⟩

/-- The commands. -/
def grammars : List Grammar :=
  [⟨["run"], [⟨"detach", "detach", some 'd', .flag⟩, exitAfterChoice], [place "name"]⟩,
   ⟨["start"], [], [(⟨"names", .text, true⟩, false)]⟩,
   ⟨["restart"], [⟨"in_place", "in-place", none, .flag⟩], [place "name"]⟩,
   ⟨["kill", "stop"], [], [place "name"]⟩,
   ⟨["kill-all"], [], []⟩,
   ⟨["list", "ls"], [], []⟩,
   ⟨["list-all"], [], []⟩,
   ⟨["logs"], [⟨"lines", "lines", some 'n', .value .int64⟩], [place "name"]⟩,
   ⟨["watch"], [exitAfterChoice], [place "name"]⟩,
   ⟨["wait-for-log"], [⟨"timeout", "timeout", none, .value .nat64⟩],
     [requiredPlace "message" .text, place "name"]⟩,
   ⟨["clear-logs"], [], [place "name"]⟩,
   ⟨["erase-database"], [], []⟩,
   ⟨["cleanup"], [⟨"vacuum", "vacuum", none, .flag⟩], []⟩,
   ⟨["add-service"],
     [⟨"root", "root", none, .value .text⟩, ⟨"env", "env", none, .value .text⟩,
      ⟨"default", "default", none, .flag⟩, ⟨"assign_port", "assign-port", none, .flag⟩,
      ⟨"dir", "dir", none, .value .path⟩],
     [requiredPlace "name" .text, requiredPlace "shell" .text]⟩,
   ⟨["assign-port"], [], [requiredPlace "port" .port]⟩]

/-! ## 2. Values -/

/-- A number of 64 bits without sign; no minus may stand in front. -/
def nat64? (text : String) : Option Int :=
  if text.startsWith "-" then none else Text.decimalWithin? 0 (Word.greatestUnsigned 64) text

/-- What is wrong with a value. -/
def Kind.objection? (kind : Kind) (text : String) : Option Refusal :=
  match kind with
  | .text => none
  | .path => if text.isEmpty then some .noValue else none
  | .int64 =>
    if (Text.decimalWithin? (Word.least 64) (Word.greatest 64) text).isSome then none
    else some .badValue
  | .nat64 => if (nat64? text).isSome then none else some .badValue
  | .port => if (Text.decimalWithin? 0 65535 text).isSome then none else some .badValue

/-! ## 3. Reading words -/

/-- What has been read of a command. -/
structure Reading where
  trailing : Bool
  placed : Nat
  pending : Option (Slot × List String)
  given : List (String × List String)

/-- Where reading begins. -/
def Reading.start : Reading := ⟨false, 0, none, []⟩

/-- The values given for a name. -/
def Reading.values? (r : Reading) (name : String) : Option (List String) :=
  (r.given.find? (·.1 == name)).map (·.2)

/-- Adds values under a name. -/
def Reading.add (r : Reading) (name : String) (values : List String) : Reading :=
  let before := (r.values? name).getD []
  { r with given := (name, before ++ values) :: r.given.filter fun g => g.1 != name }

/-- Takes complete values: there has to be one, a single one not twice, each of its kind. -/
def Reading.accept (r : Reading) (slot : Slot) (values : List String) : Except Refusal Reading :=
  if values.isEmpty then .error .noValue
  else if !slot.many && (r.values? slot.name).isSome then .error .conflict
  else match values.findSome? slot.kind.objection? with
    | some refusal => .error refusal
    | none => .ok (r.add slot.name values)

/-- Takes the values that were waiting for more. -/
def Reading.settle (r : Reading) : Except Refusal Reading :=
  match r.pending with
  | none => .ok r
  | some (slot, values) => { r with pending := none }.accept slot values

/-- An option without a value was read. -/
def Reading.apply (r : Reading) (c : Choice) : Except Refusal Reading := do
  let r ← r.settle
  match c.effect with
  | .help => throw .help
  | .version => throw .version
  | .count => return r.add c.name [""]
  | .flag | .value _ =>
    if (r.values? c.name).isSome then throw .conflict
    return r.add c.name []

/-- An option that takes a value was read, perhaps with it. -/
def Reading.expect (r : Reading) (c : Choice) (kind : Kind) (value? : Option String) :
    Except Refusal Reading := do
  let r ← r.settle
  match value? with
  | some value => r.accept ⟨c.name, kind, false⟩ [value]
  | none => return { r with pending := some (⟨c.name, kind, false⟩, []) }

/-- Reads a long option, the part after the dashes. -/
def Reading.long (r : Reading) (choices : List Choice) (body : List Char) :
    Except Refusal Reading :=
  let name := String.ofList (body.takeWhile (· != '='))
  let value? := match body.dropWhile (· != '=') with
    | [] => none
    | _ :: value => some (String.ofList value)
  match choices.find? (·.long == name) with
  | none => .error .unknownArgument
  | some c =>
    match c.effect with
    | .value kind => r.expect c kind value?
    | _ => if value?.isSome then .error .tooManyValues else r.apply c

/-- Reads a row of short options. -/
def Reading.short (choices : List Choice) (r : Reading) : List Char → Except Refusal Reading
  | [] => .ok r
  | c :: rest =>
    match choices.find? (·.short == some c) with
    | none => .error .unknownArgument
    | some choice =>
      match choice.effect with
      | .value kind =>
        let value := if rest.head? == some '=' then rest.tail else rest
        r.expect choice kind (if rest.isEmpty then none else some (String.ofList value))
      | _ => do short choices (← r.apply choice) rest

/-- Reads a positional value. -/
def Reading.position (r : Reading) (places : List (Slot × Bool)) (word : String) :
    Except Refusal Reading :=
  match places[r.placed]? with
  | none => .error .unknownArgument
  | some (slot, _) =>
    let next := if slot.many then r.placed else r.placed + 1
    match r.pending with
    | some (waiting, values) =>
      if waiting = slot && slot.many then
        .ok { r with pending := some (slot, values ++ [word]) }
      else do
        let r ← r.settle
        return { r with pending := some (slot, [word]), placed := next }
    | none => .ok { r with pending := some (slot, [word]), placed := next }

/-- Reads one word of a command. -/
def Reading.word (r : Reading) (g : Grammar) (word : String) : Except Refusal Reading :=
  if r.trailing then r.position g.places word
  else match word.toList with
    | ['-', '-'] => .ok { r with trailing := true }
    | '-' :: '-' :: body => r.long (g.choices ++ globalChoices) body
    | '-' :: c :: body => r.short (g.choices ++ globalChoices) (c :: body)
    | _ =>
      match r.pending with
      | some (slot, []) => .ok { r with pending := some (slot, [word]) }
      | _ => r.position g.places word

/-- Nothing that has to be given is missing. -/
def Reading.complete (r : Reading) (g : Grammar) : Bool :=
  g.places.all fun p => !p.2 || (r.values? p.1.name).isSome

/-- Reads the words of a command. -/
def readCommand (g : Grammar) (words : List String) : Except Refusal Reading := do
  let r ← (← words.foldlM (fun r w => Reading.word r g w) Reading.start).settle
  if r.complete g then return r else throw .missingArgument

/-! ## 4. Requests -/

/-- A flag was given. -/
def Reading.has (r : Reading) (name : String) : Bool := (r.values? name).isSome

/-- How often an option was given. -/
def Reading.count (r : Reading) (name : String) : Nat := min 255 ((r.values? name).getD []).length

/-- The value of an option or a position. -/
def Reading.value? (r : Reading) (name : String) : Option String :=
  ((r.values? name).getD []).head?

/-- The number given for an option or a position. -/
def Reading.number? (r : Reading) (name : String) : Option Int :=
  (r.value? name).bind fun text => Text.decimal? text.toList

/-- What the words of a command ask for. -/
def Reading.request (r : Reading) (word : String) : Request :=
  let name := r.value? "name"
  let exitAfter := (r.number? "exit_after").map Int.toNat
  match word with
  | "run" => .run name (r.has "detach") exitAfter
  | "start" => .start ((r.values? "names").getD [])
  | "restart" => .restart name (r.has "in_place")
  | "kill" => .kill name
  | "kill-all" => .killAll
  | "list" => .list
  | "list-all" => .listAll
  | "logs" => .logs name ((r.number? "lines").getD 100)
  | "watch" => .watch name exitAfter
  | "wait-for-log" =>
    .waitForLog ((r.value? "message").getD "") name ((r.number? "timeout").getD 60).toNat
  | "clear-logs" => .clearLogs name
  | "erase-database" => .eraseDatabase
  | "cleanup" => .cleanup (r.has "vacuum")
  | "add-service" => .addService {
      name := name.getD ""
      shell := (r.value? "shell").getD ""
      root := r.value? "root"
      environment := r.value? "env"
      isDefault := r.has "default"
      wantsPort := r.has "assign_port"
      directory := ⟨(r.value? "dir").getD "."⟩ }
  | _ => .assignPort ((r.number? "port").getD 0).toNat

/-- The word for asking about commands. -/
def helpWord : String := "help"

/-- The command of a word. -/
def grammar? (word : String) : Option Grammar := grammars.find? (·.words.contains word)

/-- What asking about words comes to: help, if there is such a command. -/
def helpAbout : List String → Refusal
  | [] => .help
  | [word] => if word == helpWord || (grammar? word).isSome then .help else .invalidSubcommand
  | _ :: _ :: _ => .invalidSubcommand

/-- Reads the command after the options in front of it. -/
def finish (top : Reading) (g : Grammar) (words : List String) : Except Refusal Invocation := do
  let r ← readCommand g words
  let inner := r.count "verbose"
  return {
    request := r.request (g.words.headD "")
    json := r.has "json" || top.has "json"
    verbosity := if inner = 0 then top.count "verbose" else inner }

/-- Reads the words in front of the command, up to the command. -/
def readTop (top : Reading) : List String → Except Refusal Invocation
  | [] => .error (if top.given.isEmpty then .helpForNothing else .missingSubcommand)
  | word :: rest =>
    if top.trailing then
      .error (if word == helpWord || (grammar? word).isSome then .unknownArgument
        else .invalidSubcommand)
    else if word == helpWord then .error (helpAbout rest)
    else match grammar? word with
      | some g => finish top g rest
      | none =>
        match word.toList with
        | ['-', '-'] => readTop { top with trailing := true } rest
        | '-' :: '-' :: body => do readTop (← top.long topChoices body) rest
        | '-' :: c :: body => do readTop (← top.short topChoices (c :: body)) rest
        | _ => .error .invalidSubcommand

/-- What a command line asks for. -/
def parse (words : List String) : Except Refusal Invocation := readTop .start words

end Overseer.Console
