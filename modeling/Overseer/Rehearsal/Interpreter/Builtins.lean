/-
Overseer.Rehearsal.Interpreter.Builtins — the commands that a shell does itself.

They change the shell's own values, traps, descriptors, directory or frames. A
fault in one of the special ones ends the shell; after a fault in any other one
the shell goes on.
-/
import Overseer.Rehearsal.Interpreter.Jobs

namespace Overseer.Rehearsal

open Shell

namespace Scene

/-! ## 1. Ends -/

/-- Refuses a command of the shell. -/
def refuseBuiltin (s : Scene) (pid : Nat) (sh : Interpreter) (name : String) (isSpecial : Bool)
    (why : String) : Scene :=
  if isSpecial then s.giveUp pid { sh with speaker := some name } why
  else (s.grumbleAt pid sh sh.line (some name) why).settle pid sh 2

/-- Says what a command of the shell has to say, and goes on. -/
def conclude (s : Scene) (pid : Nat) (sh : Interpreter) (name : String) (isSpecial : Bool) :
    Answer → Scene
  | .error why => s.refuseBuiltin pid sh name isSpecial why
  | .ok r =>
    let blame (s : Scene) (text : String) : Scene :=
      s.grumbleAt pid r.shell r.shell.line (some name) text
    let s := r.complaints.foldl blame s
    let s := (s.write pid 2 (octetsOf (String.join (r.notes.map (· ++ "\n"))))).2
    match s.write pid 1 r.out with
    | (none, s) => s.settle pid r.shell r.status
    | (some _, s) => (blame s s!"{name}: I/O error").settle pid r.shell (r.status ||| 1)

/-! ## 2. Directories -/

/-- The name of a directory that is named from another one: `..` takes back the name before it,
wherever that may lead. Two slashes at the beginning stay two. -/
def nameFrom (here : Path) (path : String) : Path :=
  let p := here.join (pathOf path)
  let slashes := (p.text.toList.takeWhile (· == '/')).length
  ⟨(if slashes = 2 then "/" else "") ++ p.normalize.text⟩

/-- Enters another directory. -/
def changeDirectory (s : Scene) (pid : Nat) (sh : Interpreter) (name : String)
    (args : List String) : Scene :=
  let v := sh.values
  let tree := s.treeOf pid
  let go : Except String (Scene × Reply) := do
    let given ← shellOptions "LP" "" args
    let (wanted, shown) := match given.operands.head? with
      | none => ((v.get? "HOME").getD "", false)
      | some "-" => ((v.get? "OLDPWD").getD "", true)
      | some wanted => (wanted, false)
    let wanted := if wanted.isEmpty then "." else wanted
    let named := nameFrom sh.here wanted
    match tree.enter? (if isPhysical given then pathOf wanted else named) with
    | none => throw s!"can't cd to {wanted}"
    | some inside =>
      let here := if isPhysical given then inside.workingDirectory else named
      let text := spell here.text
      let v := (v.set "OLDPWD" (spell sh.here.text)).set "PWD" text
      let out := if shown then octetsOf (text ++ "\n") else []
      return (s.update pid fun p => { p with directory := inside.workingDirectory },
        ⟨{ sh.withValues ((v.hand "OLDPWD").hand "PWD") with here }, out, [], [], 0⟩)
  match go with
  | .error why => s.refuseBuiltin pid sh name false why
  | .ok (s, reply) => s.conclude pid sh name false (.ok reply)

/-! ## 3. Signals -/

/-- Sets what is done about a signal; nothing stands for what is usual. -/
def setTrap (pid : Nat) (action? : Option String) (signal : Signal) (sh : Interpreter) (s : Scene) :
    Interpreter × Scene :=
  let others := sh.traps.filter (·.1 != signal.number)
  let traps := match action? with
    | none => others
    | some action => (signal.number, action) :: others
  let s := s.update pid fun p =>
    let ignored := p.ignored.filter (· != signal)
    if sh.deaf.contains signal then p
    else { p with ignored := if action? == some "" then signal :: ignored else ignored }
  ({ sh with traps }, s)

/-- Sets what is done about signals, up to a text that names none. -/
def setTraps (pid : Nat) (action? : Option String) (sh : Interpreter) (s : Scene) :
    List String → Option String × Interpreter × Scene
  | [] => (none, sh, s)
  | text :: rest =>
    match shellSignal? text with
    | none => (some text, sh, s)
    | some signal =>
      let (sh, s) := setTrap pid action? signal sh s
      setTraps pid action? sh s rest

/-- Sets or shows what is done about signals. -/
def runTrap (s : Scene) (pid : Nat) (sh : Interpreter) (isSpecial : Bool) (args : List String) :
    Scene :=
  let conclude (s : Scene) (sh : Interpreter) (a : Answer) : Scene :=
    s.conclude pid sh "trap" isSpecial a
  match shellOptions "" "" args with
  | .error why => conclude s sh (.error why)
  | .ok given =>
    let set (action? : Option String) (signals : List String) : Scene :=
      let action? := if action? == some "-" then none else action?
      match setTraps pid action? sh s signals with
      | (none, sh, s) => conclude s sh (sh.done 0)
      | (some text, sh, s) => conclude s sh (.ok ⟨sh, [], [], [s!"trap: {text}: bad trap"], 1⟩)
    match given.operands with
    | [] => conclude s sh (sh.shows (trapLines sh.traps) 0)
    | [signal] => set none [signal]
    | action :: signals =>
      if (action.toNat?).any (· ≤ 64) then set none (action :: signals)
      else set (some action) signals

/-- How signals are to be sent. -/
def killUsage : String :=
  "Usage: kill [-s sigspec | -signum | -sigspec] [pid | job]... or\nkill -l [exitstatus]"

/-- What `kill` is told: a signal and whom to send it to. -/
def killOrder (args : List String) : Except String (Signal × List String) := do
  let named := match args.head?.map String.toList with
    | some ('-' :: name) => shellSignal? (String.ofList name)
    | _ => none
  match named with
  | some signal => return (signal, args.tail)
  | none =>
    let given ← shellOptions "" "s" args
    match given.value? 's' with
    | none => return (.term, given.operands)
    | some text =>
      match shellSignal? text with
      | some signal => return (signal, given.operands)
      | none => throw s!"invalid signal number or name: {text}"

/-- Sends a signal to processes one after the other, up to one that is not named
as it has to be; tells how many are not there. -/
def killEach (pid : Nat) (sh : Interpreter) (signal : Signal) (missing : Nat) (s : Scene) :
    List String → Except String Nat × Scene
  | [] => (.ok missing, s)
  | text :: rest =>
    let target : Except String (Option Int) := do
      if text.startsWith "%" then
        let _ ← sh.job text
        return none
      else if text.startsWith "-" then return some (-(← shellNumber (text.drop 1).toString : Nat))
      else return some ((← shellNumber text : Nat) : Int)
    match target with
    | .error why => (.error why, s)
    | .ok target =>
      let (found, s) := match target with
        | some n => s.signalPid signal n
        | none => (false, s)
      if found then killEach pid sh signal missing s rest
      else killEach pid sh signal (missing + 1)
        (s.grumbleAt pid sh sh.line (some "kill") "No such process\n") rest

/-- Sends signals. -/
def runKill (s : Scene) (pid : Nat) (sh : Interpreter) (args : List String) : Scene :=
  let conclude (s : Scene) (a : Answer) : Scene := s.conclude pid sh "kill" false a
  match killOrder args with
  | .error why => conclude s (.error why)
  | .ok (_, []) => conclude s (.error killUsage)
  | .ok (signal, targets) =>
    let (r, s) := killEach pid sh signal 0 s targets
    conclude s (r.bind fun missing => sh.done (if missing = 0 then 0 else 1))

/-! ## 4. Scripts, calls and loops -/

/-- Runs a text as a script. -/
def runEval (s : Scene) (pid : Nat) (sh : Interpreter) (isSpecial : Bool) (args : List String) :
    Scene :=
  s.setShell pid ({ sh with speaker := some "eval" }.push
    [.script (.ofText (" ".intercalate args)) false, .speakAs sh.speaker false !isSpecial])

/-- Runs a file as a script. -/
def runFile (s : Scene) (pid : Nat) (sh : Interpreter) (isSpecial : Bool) (args : List String) :
    Scene :=
  let tree := s.treeOf pid
  let refuse (why : String) : Scene := s.refuseBuiltin pid sh "." isSpecial why
  let run (path : String) (channel : Channel) (s : Scene) : Scene :=
    s.setShell pid ({ sh with speaker := some path }.push
      [s.scriptFrom channel, .speakAs sh.speaker true !isSpecial])
  match shellOptions "" "" args with
  | .error why => refuse why
  | .ok given =>
    match given.operands with
    | [] => s.settle pid sh 0
    | file :: _ =>
      let inside (root : String) : String := if root.isEmpty then file else root ++ "/" ++ file
      let path? := if file.toList.contains '/' then some file
        else ((sh.searchPath.splitOn ":").map inside).find? fun path => tree.isFile (pathOf path)
      match path? with
      | none => refuse s!"{file}: not found"
      | some path =>
        match s.openToRead pid path with
        | .ok (channel, s) => run path channel s
        | .error .isDirectory => run path .nothing s
        | .error e =>
          let text := if e == .noEntry || e == .notDirectory then "No such file" else e.text
          refuse s!"cannot open {path}: {text}"

/-- Leaves a function, a script that was read in, or the shell. -/
def runReturn (s : Scene) (pid : Nat) (sh : Interpreter) (isSpecial : Bool) (args : List String) :
    Scene :=
  match (args.head?.map shellNumber).getD (.ok sh.values.status) with
  | .error why => s.refuseBuiltin pid sh "return" isSpecial why
  | .ok status =>
    match sh.dropCall? with
    | some d => (s.setDropped pid d).settle pid d.shell status
    | none => s.quit pid sh status

/-- Leaves loops, or goes on with the next round of one. -/
def runBreak (s : Scene) (pid : Nat) (sh : Interpreter) (name : String) (isSpecial : Bool)
    (args : List String) : Scene :=
  let depth := Interpreter.loopDepth sh.frames
  match (args.head?.map shellNumber).getD (.ok 1) with
  | .error why => s.refuseBuiltin pid sh name isSpecial why
  | .ok 0 => s.refuseBuiltin pid sh name isSpecial ("Illegal number: " ++ args.headD "")
  | .ok n =>
    if depth < n && sh.loopsAround != 0 then s.quit pid sh 0
    else if depth = 0 then s.settle pid sh 0
    else
      let d := Interpreter.dropLoops (name == "continue") (min n depth) ⟨sh, none⟩ sh.frames
      s.setDropped pid { d with shell := d.shell.withStatus 0 }

/-- Ends the shell. -/
def runExit (s : Scene) (pid : Nat) (sh : Interpreter) (isSpecial : Bool) (args : List String) :
    Scene :=
  match args with
  | [] => s.quit pid sh sh.statusBefore
  | text :: _ =>
    match shellNumber text with
    | .error why => s.refuseBuiltin pid sh "exit" isSpecial why
    | .ok status => s.quit pid sh status

/-! ## 5. Input and background processes -/

/-- Begins to read a line. -/
def runRead (s : Scene) (pid : Nat) (sh : Interpreter) (args : List String) : Scene :=
  match shellOptions "r" "p" args with
  | .error why => s.refuseBuiltin pid sh "read" false why
  | .ok given =>
    if given.operands.isEmpty then s.refuseBuiltin pid sh "read" false "arg count"
    else s.setShell pid (sh.push [.readLine ⟨given.has 'r', given.operands⟩ []])

/-- Waits for background processes. -/
def runWait (s : Scene) (pid : Nat) (sh : Interpreter) (args : List String) : Scene :=
  match shellOptions "" "" args with
  | .error why => s.refuseBuiltin pid sh "wait" false why
  | .ok given =>
    s.setShell pid (sh.push [if given.operands.isEmpty then .awaitAll
      else .awaitEach given.operands 127])

/-- Lists background processes. -/
def runJobs (s : Scene) (pid : Nat) (sh : Interpreter) (args : List String) : Scene :=
  let (sh, s) := s.noteEnds pid sh []
  s.conclude pid sh "jobs" false do
    let given ← shellOptions "lp" "" args
    let jobs ← if given.operands.isEmpty then pure sh.jobs else given.operands.mapM sh.job
    let (lines, sh) := Interpreter.listJobs (given.has 'l') (given.has 'p') sh jobs
    sh.shows lines 0

/-! ## 6. Together -/

/-- Does a command of the shell itself. -/
def runBuiltin (s : Scene) (pid : Nat) (sh : Interpreter) (name : String) (isSpecial : Bool)
    (args : List String) : Scene :=
  match sh.answer? (s.treeOf pid) name args with
  | some answer => s.conclude pid sh name isSpecial answer
  | none =>
    match name with
    | "cd" => s.changeDirectory pid sh name args
    | "trap" => s.runTrap pid sh isSpecial args
    | "kill" => s.runKill pid sh args
    | "eval" => s.runEval pid sh isSpecial args
    | "." => s.runFile pid sh isSpecial args
    | "return" => s.runReturn pid sh isSpecial args
    | "break" | "continue" => s.runBreak pid sh name isSpecial args
    | "exit" => s.runExit pid sh isSpecial args
    | "read" => s.runRead pid sh args
    | "wait" => s.runWait pid sh args
    | "jobs" => s.runJobs pid sh args
    | _ => s.settle pid sh 0

end Scene

end Overseer.Rehearsal
