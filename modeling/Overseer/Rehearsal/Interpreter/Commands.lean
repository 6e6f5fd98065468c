/-
Overseer.Rehearsal.Interpreter.Commands — how a shell begins a command.

The words of a command are expanded first, then its descriptors are led
elsewhere, then its variables are set, and then it is run: as a function, by the
shell itself or as a program. An expansion that needs the output of a script has
the script run in a child, hears it out and begins anew. A program gets a
process of its own, except when the shell has nothing else to do: then the shell
becomes that program.
-/
import Overseer.Rehearsal.Interpreter.Builtins
import Overseer.Rehearsal.Interpreter.Launchers

namespace Overseer.Rehearsal

open Shell

/-! ## 1. What a command means -/

/-- The words of a command that is run by its name, behind those that say so. -/
structure Meaning where
  fields : List String
  /-- Functions are passed over, and a fault does not end the shell. -/
  isPlain : Bool
  /-- Programs are looked for along the usual path. -/
  usualPath : Bool

/-- The words behind `command` and its options, and whether the usual path is
asked for; nothing if `command` is asked for something else. -/
def plainCommand? : List String → Option (Bool × List String)
  | [] => none
  | arg :: rest =>
    match arg.toList with
    | ['-', '-'] => if rest.isEmpty then none else some (false, rest)
    | '-' :: c :: cs =>
      if (c :: cs).all (· == 'p') then (plainCommand? rest).map fun r => (true, r.2) else none
    | _ => some (false, arg :: rest)

namespace Interpreter

/-- What the words of a command mean. -/
def meaning (sh : Interpreter) (usualPath isPlain : Bool) : Nat → List String → Meaning
  | 0, fields => ⟨fields, isPlain, usualPath⟩
  | fuel + 1, fields =>
    match fields with
    | "command" :: args =>
      if !isPlain && sh.functions.any (·.1 == "command") then ⟨fields, isPlain, usualPath⟩
      else match plainCommand? args with
        | some (usual, args) => sh.meaning (usualPath || usual) true fuel args
        | none => ⟨fields, isPlain, usualPath⟩
    | _ => ⟨fields, isPlain, usualPath⟩

/-- The function that a command calls. -/
def function? (sh : Interpreter) (m : Meaning) : Option Command :=
  if m.isPlain then none else m.fields.head?.bind fun name => sh.functions.lookup name

/-- The shell does the command itself. -/
def doesItself (sh : Interpreter) (m : Meaning) : Bool :=
  (sh.function? m).isNone && m.fields.head?.any isBuiltin

/-- A fault in the command ends the shell, and variables that are set for it stay set. -/
def isSpecial (sh : Interpreter) (m : Meaning) : Bool :=
  sh.doesItself m && !m.isPlain && m.fields.head?.any specialNames.contains

/-- Words such as `name=value` behind the command are taken as settings. -/
def takesSettings (sh : Interpreter) (fields : List String) : Bool :=
  let m := sh.meaning false false fields.length fields
  let names := ["alias", "export", "local", "readonly"]
  sh.doesItself m && m.fields.head?.any names.contains

/-- Expands the words of a command, behind those that are expanded. -/
def expandWords (sh : Interpreter) (tree : FileTree) (fields : List String) :
    List Word → Expanding (List String)
  | [] => return fields
  | word :: rest => do
    let setting? := if sh.takesSettings fields then setting? word else none
    match setting? with
    | some (.of name value) =>
      let value ← expandText true value
      sh.expandWords tree (fields ++ [name ++ "=" ++ value]) rest
    | none => sh.expandWords tree (fields ++ (← expandFields tree word)) rest

end Interpreter

/-- Descriptors to be led elsewhere, each with the text of where to. -/
abbrev Targets := List (Redirect × String)

/-- Expands the targets of descriptors. -/
def expandTargets (redirects : List Redirect) : Expanding Targets :=
  redirects.mapM fun
    | .to descriptor opening word => do
      let text ← expandText false word
      if opening = .copy && (Scene.copied? text).isNone then
        Expanding.refuse "Syntax error: Bad fd number"
      return (.to descriptor opening word, text)

/-- Sets a variable; gives the setting as it is shown. -/
def expandSetting : Setting → Expanding String
  | .of name word => do
    let value ← expandText true word
    match (← Expanding.values).assign name value with
    | .error why => Expanding.refuse why
    | .ok values => modify fun d => { d with values }
    return name ++ "=" ++ value

/-- Sets variables one after the other, perhaps to be handed on; gives them as they are shown. -/
def expandSettings (hands : Bool) (settings : List Setting) : Expanding (List String) :=
  settings.mapM fun setting => do
    let text ← expandSetting setting
    if hands then modify fun d => { d with values := d.values.hand setting.name }
    return text

/-- The text matches one of the patterns, which are expanded one after the other. -/
def matchesAny (text : String) : List Word → Expanding Bool
  | [] => return false
  | pattern :: rest => do
    if isMatch (← expandPattern pattern) text.toList then return true else matchesAny text rest

/-- The body of the first arm that a text matches. -/
def chooseArm (text : String) : List Arm → Expanding Command
  | [] => return .nothing
  | .of patterns body :: rest => do
    if ← matchesAny text patterns then return body else chooseArm text rest

namespace Scene

/-! ## 2. Children -/

/-- The descriptor at which a shell hears an inner script out. -/
def hearingDescriptor (pipe : Nat) : Nat := 100 + pipe

/-- The descriptors that a child gets. -/
def channelsForChild (s : Scene) (pid : Nat) : Channels :=
  (s.channelsOf pid).filter (·.1 < 100)

/-- Starts a child that runs a command. -/
def forkShell (s : Scene) (pid : Nat) (sh : Interpreter) (channels : Channels) (tested : Bool)
    (command : Command) : Nat × Scene :=
  s.fork pid channels (.shell (sh.child tested [.run command]))

/-- Starts a child in the background: the first thing it does is to ignore interrupts. -/
def forkBehind (s : Scene) (pid : Nat) (sh : Interpreter) (channels : Channels)
    (command : Command) : Nat × Scene :=
  s.fork pid channels (.shell (sh.child false [.deafen [.int, ⟨3⟩], .run command]))

/-- Starts the parts of a pipeline, of which the first one reads from a channel; they
may be in the background. -/
def forkPipeline (s : Scene) (pid : Nat) (sh : Interpreter) (behind : Bool)
    (input : Option Channel) : List Command → List Nat × Scene
  | [] => ([], s)
  | command :: rest =>
    let fork (s : Scene) (channels : Channels) : Nat × Scene :=
      if behind then s.forkBehind pid sh channels command
      else s.forkShell pid sh channels sh.isTested command
    let channels := s.channelsForChild pid
    let channels := match input with
      | some channel => setChannel 0 (some channel) channels
      | none => channels
    if rest.isEmpty then
      let (child, s) := fork s channels
      ([child], s)
    else
      let (pipe, s) := s.makePipe none
      let (child, s) := fork s (setChannel 1 (some (.sink pipe)) channels)
      let (children, s) := s.forkPipeline pid sh behind (some (.source pipe)) rest
      (child :: children, s)

/-- Starts a command in the background. -/
def runBehind (s : Scene) (pid : Nat) (sh : Interpreter) (command : Command) : Scene :=
  let sh := sh.withRoom
  let (children, s) := match command with
    | .piped commands => s.forkPipeline pid sh true (some .nothing) commands
    | _ =>
      let command := match command with
        | .grouped line body redirects => Command.inner line body redirects
        | _ => command
      let (child, s) := s.forkBehind pid sh
        (setChannel 0 (some .nothing) (s.channelsForChild pid)) command
      ([child], s)
  s.setShell pid ((sh.addJob children).withStatus 0)

/-! ## 3. Running -/

/-- Calls a function. -/
def callFunction (s : Scene) (pid : Nat) (sh : Interpreter) (body : Command)
    (args : List String) : Scene :=
  let values := { sh.values with arguments := args }
  let place : OptionPlace := ⟨1, 0, (values.get? "OPTIND").getD ""⟩
  s.setShell pid ({ sh with values, place }.push
    [.run body, .leave sh.values.arguments sh.place []])

/-- Why a program cannot be run, in words, and the status of that. -/
def programFailure (e : OsError) : String × Nat :=
  if e == .noEntry || e == .notDirectory then ("not found", 127)
  else (e.text, if e == .nameTooLong || e == .tooManyLinks then 127 else 126)

/-- Runs a program; `inPlace` has the shell become it. -/
def runExternal (s : Scene) (pid : Nat) (sh : Interpreter) (inPlace : Bool) (path : String)
    (command : String) (args : List String) : Scene :=
  let tree := s.treeOf pid
  match orScript command (findCommand tree path command) with
  | .error e =>
    let (text, status) := programFailure e
    (s.grumble pid sh s!"{command}: {text}").settle pid sh
      (if command.toList.contains '/' then status else 127)
  | .ok (_, program) =>
    let environment := sh.values.handed
    if inPlace then s.become (args.length + 2) pid command program args environment
    else
      let (child, s) := s.fork pid (s.channelsForChild pid) (.repeating [])
      let s := s.become (args.length + 2) child command program args environment
      s.setShell pid (sh.withRoom.push [.await [child]])

/-- Has a shell become a program, or ends it. -/
def runExec (s : Scene) (pid : Nat) (sh : Interpreter) (command : String) (args : List String) :
    Scene :=
  let tree := s.treeOf pid
  match orScript command (findCommand tree sh.searchPath command) with
  | .ok (_, program) => s.become (args.length + 2) pid command program args sh.values.handed
  | .error e =>
    let (text, status) := programFailure e
    (s.grumbleAt pid sh sh.line (some "exec") s!"{command}: {text}").quit pid sh status

/-- Runs a command whose words are expanded. -/
def execute (s : Scene) (pid : Nat) (sh : Interpreter) (call : Call) : Scene :=
  let m := sh.meaning false false call.fields.length call.fields
  match m.fields, sh.function? m with
  | [], _ => s.settle pid sh (call.status.getD 0)
  | _ :: args, some body => s.callFunction pid sh body args
  | "exec" :: command :: args, none => s.runExec pid sh command args
  | name :: args, none =>
    if sh.doesItself m then s.runBuiltin pid sh name (sh.isSpecial m) args
    else
      let inPlace := call.isLast && sh.traps.all (·.2.isEmpty)
      s.runExternal pid sh inPlace (if m.usualPath then usualSearchPath else sh.searchPath) name
        args

/-! ## 4. Preparing -/

/-- Hears out a script that an expansion needs. -/
def hearScript (s : Scene) (pid : Nat) (sh : Interpreter) (work : Preparation)
    (heard : List Heard) (body : Command) (values : Values) : Scene :=
  let (pipe, s) := s.makePipe none
  let channels := setChannel 1 (some (.sink pipe)) (s.channelsForChild pid)
  let (child, s) := s.forkShell pid { sh with values } channels false body
  let s := s.setChannels pid
    (setChannel (hearingDescriptor pipe) (some (.source pipe)) (s.channelsOf pid))
  s.setShell pid (sh.withRoom.push [.collect pipe child [] work heard])

/-- Expands something and goes on with it; `heard` is what its inner scripts have come to. -/
def expanding {α : Type} (s : Scene) (pid : Nat) (sh : Interpreter) (work : Preparation)
    (heard : List Heard) (expansion : Expanding α) (go : α → Interpreter → Option Nat → Scene) :
    Scene :=
  match expansion.run ⟨sh.values, heard, none, []⟩ with
  | .ok (a, d) => go a (sh.withValues d.values) d.status
  | .error (.fault text values) => s.giveUp pid (sh.withValues values) text
  | .error (.script body values) => s.hearScript pid sh work heard body values

/-- Sets the variables of a command and runs it. -/
def prepareSettings (s : Scene) (pid : Nat) (sh : Interpreter) (settings : List Setting)
    (call : Call) (heard : List Heard) : Scene :=
  let m := sh.meaning false false call.fields.length call.fields
  let stays := call.fields.isEmpty || sh.isSpecial m
  let hands := !stays || (m.fields.head? == some "exec" && m.fields.length != 1)
  let saved := if stays then []
    else settings.map fun x => (x.name, sh.values.binding? x.name)
  let work : Preparation := .settings settings call
  s.expanding pid sh work heard (expandSettings hands settings) fun shown sh status =>
    let sh := if saved.isEmpty then sh else sh.push [.giveBack saved]
    let front := (sh.values.get? "PS4").getD ""
    let line := " ".intercalate (shown ++ call.fields)
    let s := if sh.values.has 'x' then
        (s.writeTo pid call.complaints (octetsOf s!"{front}{line}\n")).2
      else s
    s.execute pid sh { call with status := status.or call.status }

/-- Leads descriptors elsewhere, or says why that fails. -/
def lead (s : Scene) (pid : Nat) (sh : Interpreter) (targets : Targets) :
    Except String (Channels × Scene) × Scene :=
  s.redirect pid (sh.values.has 'C') (s.channelsOf pid) targets

/-- Leads the descriptors of a simple command elsewhere, and goes on to its settings. -/
def prepareSimple (s : Scene) (pid : Nat) (sh : Interpreter) (settings : List Setting)
    (fields : List String) (targets : Targets) (status : Option Nat) : Scene :=
  let before := s.channelsOf pid
  let m := sh.meaning false false fields.length fields
  match s.lead pid sh targets with
  | (.error why, s) =>
    if sh.isSpecial m then s.giveUp pid sh why
    else (s.grumble pid sh why).settle pid sh 2
  | (.ok (channels, s), _) =>
    let stays := targets.isEmpty || (sh.doesItself m && m.fields.head? == some "exec")
    let call : Call := ⟨fields, before.lookup 2, status, sh.frames.isEmpty⟩
    let sh := if stays then sh else sh.push [.restore before]
    (s.setChannels pid channels).prepareSettings pid sh settings call []

/-- Leads descriptors elsewhere for more than a simple command. -/
def prepareGroup (s : Scene) (pid : Nat) (sh : Interpreter) (targets : Targets)
    (go : Scene → Channels → Scene) : Scene :=
  match s.lead pid sh targets with
  | (.error why, s) => (s.grumble pid sh why).settle pid sh 2
  | (.ok (channels, s), _) => go s channels

/-- Expands what has to be expanded before a command is run, and goes on with it. -/
def prepare (s : Scene) (pid : Nat) (sh : Interpreter) (work : Preparation) (heard : List Heard) :
    Scene :=
  let tree := s.treeOf pid
  match work with
  | .settings settings call => s.prepareSettings pid sh settings call heard
  | .command (.simple _ settings words redirects) =>
    let expansion : Expanding (List String × Targets) := do
      let fields ← sh.expandWords tree [] words
      return (fields, ← expandTargets redirects)
    s.expanding pid sh work heard expansion fun (fields, targets) sh status =>
      s.prepareSimple pid sh settings fields targets status
  | .command (.grouped _ body redirects) =>
    s.expanding pid sh work heard (expandTargets redirects) fun targets sh _ =>
      s.prepareGroup pid sh targets fun s channels =>
        (s.setChannels pid channels).setShell pid
          (sh.push [.run body, .restore (s.channelsOf pid)])
  | .command (.inner _ body redirects) =>
    s.expanding pid sh work heard (expandTargets redirects) fun targets sh _ =>
      s.prepareGroup pid sh targets fun s channels =>
        if sh.isAtEnd then
          (s.setChannels pid channels).setShell pid { sh with frames := [.run body] }
        else
          let (child, s) := s.forkShell pid sh (channels.filter (·.1 < 100)) sh.isTested body
          s.setShell pid (sh.withRoom.push [.await [child]])
  | .command (.each _ name words body) =>
    s.expanding pid sh work heard (words.flatMapM (expandFields tree)) fun values sh _ =>
      if values.isEmpty then s.setShell pid (sh.withStatus 0)
      else s.setShell pid (sh.push [.eachBody name values body])
  | .command (.distinguish _ subject arms) =>
    let expansion : Expanding Command := do chooseArm (← expandText false subject) arms
    s.expanding pid sh work heard expansion fun body sh _ =>
      if body matches .nothing then s.setShell pid (sh.withStatus 0)
      else s.setShell pid (sh.push [.run body])
  | .command _ => s.setShell pid sh

/-- Begins a command. -/
def runCommand (s : Scene) (pid : Nat) (sh : Interpreter) (command : Command) : Scene :=
  let push (frames : List Frame) : Scene := s.setShell pid (sh.push frames)
  if sh.values.has 'n' then s.setShell pid sh
  else match command with
    | .nothing => s.setShell pid sh
    | .simple line .. | .grouped line .. | .inner line .. | .each line .. | .distinguish line .. =>
      s.prepare pid { sh with line } (.command command) []
    | .chain first .nothing => push [.run first]
    | .chain first second => push [.run first, .run second]
    | .both first second => push [.run first, .onSuccess second]
    | .either first second => push [.run first, .onFailure second]
    | .negated body => push [.run body, .negate]
    | .background body => s.runBehind pid sh body
    | .piped commands =>
      let (children, s) := s.forkPipeline pid sh false none commands
      s.setShell pid (sh.withRoom.push [.await children])
    | .choice condition yes no => push [.run condition, .branch yes no]
    | .loop wanted condition body => push [.run condition, .loopTest wanted condition body 0]
    | .define name body =>
      s.setShell pid { sh.withStatus 0 with
        functions := (name, body) :: sh.functions.filter (·.1 != name) }

end Scene

end Overseer.Rehearsal
