/-
Overseer.Rehearsal.Interpreter.Launchers — programs that start others.

A process becomes a shell or a program. Some programs become another one at once,
in other surroundings; one reads words and runs commands with them, one after the other.
-/
import Overseer.Rehearsal.Interpreter.Basic

namespace Overseer.Rehearsal

/-- Words in groups. -/
def batches {α : Type} (size : Nat) : Nat → List α → List (List α)
  | 0, _ => []
  | fuel + 1, words =>
    if words.isEmpty then []
    else words.take (max size 1) :: batches size fuel (words.drop (max size 1))

/-- The commands that `xargs` makes of its input: what it is told, and the words it reads. -/
def commandsOf (given : Given) (cs : List Char) : List (List String) :=
  let command := if given.operands.isEmpty then ["echo"] else given.operands
  let words := (Text.fields Char.isWhitespace cs).map String.ofList
  let size := ((given.value? 'n').bind String.toNat?).getD words.length
  if words.isEmpty then [command] else (batches size (words.length + 1) words).map (command ++ ·)

namespace Scene

/-! ## 1. Becoming -/

/-- Lets a process become a program; some programs become another one at once or
start others. -/
def become : Nat → Scene → Nat → String → Program → List String → List (String × String) → Scene
  | 0, s, pid, _, _, _, _ => s.exit pid 126
  | fuel + 1, s, pid, called, program, args, environment =>
    let s := s.update pid fun p => { p with pending := [] }
    let args := program.front ++ args
    let c : Caller := ⟨called, program.name⟩
    let pass (s : Scene) (verb : String) : Scene :=
      match args with
      | [] => s.complainAndExit pid c [s!"{c.name}: missing operand", helpHint c.name] 125
      | command :: rest =>
        let searchPath := (environment.lookup "PATH").getD "/bin:/usr/bin"
        match orScript command (findProgram (s.treeOf pid) searchPath command) with
        | .ok (_, program) => become fuel s pid command program rest environment
        | .error e => s.complainAndExit pid c [s!"{c.name}: {verb}'{command}': {e.text}"]
            (if e == .noEntry then 127 else 126)
    match program.name with
    | "sh" | "dash" => s.becomeShell pid .builtin called args environment
    | "bash" => s.becomeShell pid .program called args environment
    | "nohup" =>
      pass (s.update pid fun p => { p with ignored := ⟨1⟩ :: p.ignored }) "failed to run command "
    | "setsid" => pass s "failed to execute "
    | "nice" => pass s ""
    | "xargs" =>
      match readOptions c.name (frontOptions "" "n") args 1 with
      | .ok given => s.setWork pid (.planning c (commandsOf given) [] environment)
      | .error refusal => s.finish pid c refusal.outcome
    | name => s.setWork pid (.program called name args environment)

/-! ## 2. Starting -/

/-- Lets a process that reads commands take a piece. -/
def stepPlanning (s : Scene) (pid : Nat) (c : Caller) (plan : List Char → List (List String))
    (read : List UInt8) (environment : List (String × String)) : Scene :=
  let (octets, s) := s.readFrom pieceSize (s.channel? pid 0)
  if octets.isEmpty then
    s.setWork pid (.feeding c (plan (spelled read).toList) none 0 environment)
  else s.setWork pid (.planning c plan (read ++ octets) environment)

/-- Lets a process that runs commands start the next one, or take notice of its end. -/
def stepFeeding (s : Scene) (pid : Nat) (c : Caller) (commands : List (List String))
    (child? : Option Nat) (code : Nat) (environment : List (String × String)) : Scene :=
  match child?, commands with
  | some child, commands =>
    match s.end? child with
    | none => s
    | some status =>
      let code := if status == .code 0 then code else 123
      (s.reap child).setWork pid (.feeding c (commands.drop 1) none code environment)
  | none, [] | none, [] :: _ => s.exit pid code
  | none, (command :: args) :: rest =>
    let searchPath := (environment.lookup "PATH").getD usualSearchPath
    match orScript command (findProgram (s.treeOf pid) searchPath command) with
    | .error e => s.complainAndExit pid c [s!"{c.name}: {command}: {e.text}"]
        (if e == .noEntry then 127 else 126)
    | .ok (_, program) =>
      let channels := setChannel 0 (some .nothing) (s.channelsOf pid)
      let (child, s) := s.fork pid channels (.repeating [])
      let s := s.become (args.length + 2) child command program args environment
      s.setWork pid (.feeding c ((command :: args) :: rest) (some child) code environment)

end Scene

end Overseer.Rehearsal
