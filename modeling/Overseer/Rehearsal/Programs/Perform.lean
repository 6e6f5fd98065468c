/-
Overseer.Rehearsal.Programs.Perform — what programs do.

Most programs do all they do at once and end. Those that read begin to read
here, and go on piece by piece as their input comes. A program complains under
the name by which it was called.
-/
import Overseer.Rehearsal.Programs.Answers
import Overseer.Rehearsal.Programs.Condition
import Overseer.Rehearsal.Programs.Dates
import Overseer.Rehearsal.Programs.Dump
import Overseer.Rehearsal.Programs.Edit
import Overseer.Rehearsal.Programs.Files
import Overseer.Rehearsal.Programs.Lines

namespace Overseer.Rehearsal

/-- A complaint under the name by which the program was called. -/
def Caller.rename (c : Caller) (line : String) : String :=
  let front := c.name ++ ": "
  let hint := "Try '" ++ c.name ++ " "
  if c.called == c.name then line
  else if line.startsWith front then c.called ++ ": " ++ (line.drop front.length).toString
  else if line.startsWith hint then "Try '" ++ c.called ++ " " ++ (line.drop hint.length).toString
  else line

namespace Scene

/-! ## 1. Ends -/

/-- Complains in the name of a program. -/
def complain (s : Scene) (pid : Nat) (c : Caller) (lines : List String) : Scene :=
  (s.write pid 2 (octetsOf (String.join (lines.map fun l => c.rename l ++ "\n")))).2

/-- Complains and ends. -/
def complainAndExit (s : Scene) (pid : Nat) (c : Caller) (lines : List String) (code : Nat) :
    Scene :=
  (s.complain pid c lines).exit pid code

/-- Writes and ends; a program that cannot write complains. -/
def sayAndExit (s : Scene) (pid : Nat) (c : Caller) (octets : List UInt8) (code : Nat) : Scene :=
  match s.write pid 1 octets with
  | (none, s) => s.exit pid code
  | (some e, s) =>
    if s.isRunning pid then s.complainAndExit pid c [s!"{c.name}: write error: {e.text}"] 1 else s

/-- Complains, writes and ends. -/
def finish (s : Scene) (pid : Nat) (c : Caller) (o : Outcome) : Scene :=
  (s.complain pid c o.complaints).sayAndExit pid c (octetsOf (String.ofList o.out)) o.code

/-- Says what there is to say, and ends. -/
def reportAndExit (pid : Nat) (c : Caller) : Report × Scene → Scene
  | (r, s) => s.finish pid c ⟨r.out, r.complaints, if r.complaints.isEmpty then 0 else 1⟩

/-! ## 2. Reading -/

/-- Opens the files named; a dash is the input. -/
def openAll (s : Scene) (pid : Nat) (files : List String) : List Input × Scene :=
  (if files.isEmpty then ["-"] else files).foldl (fun (inputs, s) file =>
    if file == "-" then
      (inputs ++ [(file, match s.channel? pid 0 with
        | some .folder => .error .isDirectory
        | some channel => .ok channel
        | none => .error .badDescriptor)], s)
    else match s.openToRead pid file with
      | .ok (channel, s) => (inputs ++ [(file, .ok channel)], s)
      | .error e => (inputs ++ [(file, .error e)], s)) ([], s)

/-- Lets a process do some work from now on. -/
def setWork (s : Scene) (pid : Nat) (work : Work) : Scene :=
  s.update pid fun p => if p.ended?.isSome then p else { p with work }

/-- Lets a process read files and make something of them. -/
def startDigest (s : Scene) (pid : Nat) (c : Caller) : Except Refusal Digest → Scene
  | .error refusal => s.finish pid c refusal.outcome
  | .ok digest =>
    let (inputs, s) := s.openAll pid digest.files
    s.setWork pid (.digesting c digest [] [] inputs)

/-- Lets a process copy files to its output. -/
def startCopy (s : Scene) (pid : Nat) (c : Caller) (files : List String) : Scene :=
  let (inputs, s) := s.openAll pid files
  s.setWork pid (.copying c 0 inputs)

/-! ## 3. Signals -/

/-- The signal and the operands that are told to `kill`; nothing if they make no sense. -/
def killArguments : List String → Option (Signal × List String)
  | "-s" :: name :: pids => (signalOf? name).map (·, pids)
  | "--" :: pids => some (.term, pids)
  | arg :: pids =>
    match arg.toList with
    | '-' :: name =>
      (signalOf? (String.ofList name)).map (·, if pids.head? == some "--" then pids.tail else pids)
    | _ => some (.term, arg :: pids)
  | [] => none

/-- Signals a process, or all of its group. -/
def signalPid (s : Scene) (signal : Signal) (pid : Int) : Bool × Scene :=
  let pids := if pid ≤ 0 then (s.procs.map (·.pid)) else [pid.toNat]
  let found := pids.filter s.isRunning
  (!found.isEmpty || (s.findProc pid).isSome,
    if signal.number = 0 then s else found.foldl (fun s pid => s.receive pid signal) s)

/-! ## 4. Programs -/

/-- The second since 1970 in which a scene begins. -/
def firstSecond : Nat := 1767225600

/-- The program of a name that reads and then writes, if it is one. -/
def digestOf? (name : String) (args : List String) : Option (Except Refusal Digest) :=
  match name with
  | "head" => some (taker args)
  | "wc" => some (counter args)
  | "tr" => some (exchanger args)
  | "sort" => some (sorter args)
  | "uniq" => some (uniquer args)
  | "cut" => some (cutter args)
  | "paste" => some (paster args)
  | "fold" => some (folder args)
  | "rev" => some (reverser args)
  | "tac" => some (backwards args)
  | "grep" => some (searcher args)
  | "sed" => some (editor args)
  | "od" => some (dumper args)
  | "base64" => some (encoder args)
  | _ => none

/-- Lets the program `printf` write by a format, and end. -/
def runPrintf (s : Scene) (pid : Nat) (c : Caller) (format : String) (args : List String) :
    Scene :=
  let w := Shell.printf .program format args
  let complaints := (w.misfits.map fun
    | .noNumber a => s!"printf: '{a}': expected a numeric value"
    | .notWhole a => s!"printf: '{a}': value not completely converted"
    | .outOfRange a => s!"printf: '{a}': Numerical result out of range")
    ++ (w.broken.map fun why => s!"printf: {why}").toList
  (s.complain pid c complaints).sayAndExit pid c w.octets (if complaints.isEmpty then 0 else 1)

/-- Lets the program `kill` send a signal to processes, and end. -/
def killPids (s : Scene) (pid : Nat) (c : Caller) (signal : Signal) (pids : List String) : Scene :=
  let (complaints, s) := pids.foldl (fun (complaints, s) text =>
    match Text.decimal? text.toList with
    | none => (complaints ++ [s!"kill: failed to parse argument: '{text}'"], s)
    | some n =>
      let (found, s) := s.signalPid signal n
      (if found then complaints else complaints ++ [s!"kill: ({text}): No such process"], s))
    (([] : List String), s)
  s.complainAndExit pid c complaints (if complaints.isEmpty then 0 else 1)

/-- Lets a program that does all at once do it, or begin to read and write.
Shells, and programs that start others, are started elsewhere. -/
def runProgram (s : Scene) (pid : Nat) (c : Caller) (args : List String)
    (environment : List (String × String)) : Scene :=
  let withOptions (set : OptionSet) (go : Given → Scene) : Scene :=
    match readOptions c.name set args 1 with
    | .ok given => go given
    | .error refusal => s.finish pid c refusal.outcome
  let refuse (text : String) : Scene :=
    s.complainAndExit pid c [s!"{c.name}: {text}", helpHint c.name] 1
  let onOperands (set : OptionSet) (f : Given → Scene → String → Report × Scene) : Scene :=
    withOptions set fun given =>
      if given.operands.isEmpty && !given.has 'f' then refuse "missing operand"
      else reportAndExit pid c (s.forEach given.operands (f given))
  match answerOf? c.name args, digestOf? c.name args with
  | some outcome, _ => s.finish pid c outcome
  | none, some digest => s.startDigest pid c digest
  | none, none =>
    match c.name with
    | "echo" => s.sayAndExit pid c (Shell.echoWithOptions .echoProgram args) 0
    | "printf" =>
      match args with
      | [] => refuse "missing operand"
      | format :: rest => s.runPrintf pid c format rest
    | "sleep" =>
      match args.filter fun a => (duration? a).isNone with
      | [] =>
        if args.isEmpty then refuse "missing operand"
        else s.setWork pid (.asleep (s.clock + ((args.filterMap duration?).foldl (· + ·) 0)))
      | bad => s.complainAndExit pid c
          (bad.map (fun a => s!"sleep: invalid time interval '{a}'") ++ [helpHint c.name]) 1
    | "cat" =>
      withOptions (optionSet "nsvA" "") fun given =>
        if given.options.isEmpty then s.startCopy pid c given.operands
        else s.startDigest pid c (.ok (shower given))
    | "date" =>
      match Dates.answer (firstSecond + s.clock / 1000 : Nat) args with
      | .ok outcome => s.finish pid c outcome
      | .error refusal => s.finish pid c refusal.outcome
    | "yes" =>
      let text := if args.isEmpty then "y" else " ".intercalate args
      s.setWork pid (.repeating (octetsOf (text ++ "\n")))
    | "rm" => onOperands (optionSet "rf" "") fun given s path => s.removePath pid given path
    | "mkdir" => onOperands (optionSet "p" "") fun given s path => s.makeDirectory pid given path
    | "rmdir" => onOperands (optionSet "" "") fun _ s path => s.removeEmpty pid path
    | "touch" => onOperands (optionSet "" "") fun _ s path => s.touchPath pid path
    | "chmod" =>
      match args with
      | [] => refuse "missing operand"
      | [mode] => refuse s!"missing operand after '{mode}'"
      | mode :: files =>
        if (Mode.changed? false 0 0 mode).isNone then refuse s!"invalid mode: '{mode}'"
        else reportAndExit pid c (s.forEach files fun s path => s.changeMode pid mode path)
    | "cp" | "mv" | "ln" =>
      withOptions (optionSet "rsf" "") fun given =>
        match s.transferAll pid c.name given with
        | .ok r => reportAndExit pid c r
        | .error refusal => s.finish pid c refusal.outcome
    | "ls" =>
      withOptions (optionSet "A1" "") fun given =>
        let paths := if given.operands.isEmpty then ["."] else given.operands
        reportAndExit pid c (s.forEach paths fun s path => s.listPath pid given path)
    | "find" =>
      reportAndExit pid c (s.forEach (if args.isEmpty then ["."] else args) fun s path =>
        s.findBelow pid path)
    | "pwd" => s.finish pid c (answerLines [spell (s.treeOf pid).workingDirectory.text])
    | "readlink" =>
      let (report, all) := s.showLinks pid args
      s.sayAndExit pid c (octetsOf (String.ofList report.out)) (if all then 0 else 1)
    | "printenv" =>
      let found := args.filterMap fun name => environment.lookup name
      let lines := if args.isEmpty then environment.map fun e => e.1 ++ "=" ++ e.2 else found
      s.finish pid c { answerLines lines with code := if found.length < args.length then 1 else 0 }
    | "test" | "[" =>
      if c.name == "[" && args.getLast? != some "]" then
        s.complainAndExit pid c ["[: missing ']'"] 2
      else
        match Condition.evaluate (s.treeOf pid) (if c.name == "[" then args.dropLast else args) with
        | .ok yes => s.exit pid (if yes then 0 else 1)
        | .error why => s.complainAndExit pid c [s!"{c.name}: {why}"] 2
    | "kill" =>
      match killArguments args with
      | none => s.exit pid 1
      | some (signal, pids) => s.killPids pid c signal pids
    | _ => s.exit pid 1

/-! ## 5. Steps -/

/-- How much is read or written at a time. -/
def pieceSize : Nat := 65536

/-- Lets a process that copies take a piece. -/
def stepCopying (s : Scene) (pid : Nat) (c : Caller) (code : Nat) : List Input → Scene
  | [] => s.exit pid code
  | (file, .error e) :: rest =>
    let last := if e == .badDescriptor then [s!"cat: closing standard input: {e.text}"] else []
    (s.complain pid c (s!"cat: {file}: {e.text}" :: last)).setWork pid (.copying c 1 rest)
  | (file, .ok channel) :: rest =>
    let (octets, s) := s.readFrom pieceSize (some channel)
    if octets.isEmpty then s.setWork pid (.copying c code rest)
    else match s.write pid 1 octets with
      | (none, s) => s.setWork pid (.copying c code ((file, .ok channel) :: rest))
      | (some e, s) =>
        if s.isRunning pid then s.complainAndExit pid c [s!"cat: write error: {e.text}"] 1 else s

/-- Lets a process that reads files take a piece. -/
def stepDigesting (s : Scene) (pid : Nat) (c : Caller) (d : Digest) (seen : List Document)
    (before : List UInt8) : List Input → Scene
  | [] => s.finish pid c (d.make seen.reverse)
  | (file, .error e) :: rest =>
    s.setWork pid (.digesting c d (⟨file, .error e⟩ :: seen) [] rest)
  | (file, .ok channel) :: rest =>
    let (octets, s) := s.readFrom pieceSize (some channel)
    let document : Document := ⟨file, .ok (before ++ octets)⟩
    if octets.isEmpty || d.isEnough document.chars then
      s.setWork pid (.digesting c d (document :: seen) [] rest)
    else s.setWork pid (.digesting c d seen (before ++ octets) ((file, .ok channel) :: rest))

end Scene

end Overseer.Rehearsal
