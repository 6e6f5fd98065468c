/-
Overseer.Rehearsal.Interpreter.Jobs — the background processes of a shell.

Processes that are started together are a job, which has the smallest number
that is free. A shell takes notice of their ends when it waits for something or
is asked about them. A job that has ended is forgotten when it has been told of
and room for another one is needed.
-/
import Overseer.Rehearsal.Interpreter.Replies

namespace Overseer.Rehearsal

open Shell

/-- How the job has ended, if all of its processes have. -/
def Job.end? (j : Job) : Option ExitStatus :=
  if j.pids.all fun pid => j.ends.any (·.1 == pid) then j.ends.lookup (j.pids.getLastD 0)
  else none

namespace Interpreter

/-- Makes room for another job: forgets the first one that is over and done with. -/
def withRoom (sh : Interpreter) : Interpreter :=
  match ((sh.jobs.filter fun j => j.isKnown && j.end?.isSome).map (·.number)).min? with
  | some n => { sh with jobs := sh.jobs.filter (·.number != n) }
  | none => sh

/-- Adds a job, which becomes the latest one. -/
def addJob (sh : Interpreter) (pids : List Nat) : Interpreter :=
  let isFree (n : Nat) : Bool := !sh.jobs.any (·.number == n)
  let numbers := (List.range (sh.jobs.length + 1)).map (· + 1)
  let job : Job := ⟨(numbers.find? isFree).getD 1, pids, [], false⟩
  { sh with jobs := job :: sh.jobs, values := { sh.values with lastJob := pids.getLast? } }

/-- Notes that the shell was asked for the end of a job. -/
def tellOf (sh : Interpreter) (number : Nat) : Interpreter :=
  { sh with jobs := sh.jobs.map fun j =>
    if j.number = number then { j with isKnown := true } else j }

/-- The job that a text behind a percent sign means. -/
def job (sh : Interpreter) (text : String) : Except String Job :=
  let orElse (why : String) : Option Job → Except String Job
    | some j => .ok j
    | none => .error why
  match text.toList with
  | '%' :: [] | '%' :: '%' :: [] | '%' :: '+' :: [] => orElse "No current job" sh.jobs.head?
  | '%' :: '-' :: [] => orElse "No previous job" sh.jobs[1]?
  | '%' :: n =>
    orElse s!"No such job: {text}"
      ((String.ofList n).toNat?.bind fun n => sh.jobs.find? (·.number == n))
  | _ => orElse s!"No such job: {text}" none

/-- The job that is waited for by a text: a number of a process or of a job. -/
def awaitedJob (sh : Interpreter) (text : String) : Except String (Option Job) :=
  if text.startsWith "%" then (sh.job text).map some
  else do
    let pid ← shellNumber text
    return sh.jobs.find? fun j => j.pids.getLast? == some pid

/-- A list of jobs, latest first; those that have ended are told of and forgotten. -/
def listJobs (long brief : Bool) (sh : Interpreter) : List Job → List String × Interpreter
  | [] => ([], sh)
  | j :: rest =>
    let mark := if sh.jobs.head?.any (·.number == j.number) then '+'
      else if (sh.jobs[1]?).any (·.number == j.number) then '-' else ' '
    let line := if brief then toString (j.pids.headD 0)
      else if long then s!"[{j.number}] {mark} {j.pids.headD 0} {j.stateText}" else j.line mark
    let sh := if j.end?.isSome && !brief then
        { sh with jobs := sh.jobs.filter (·.number != j.number) }
      else sh
    let (lines, sh) := listJobs long brief sh rest
    (line :: lines, sh)

end Interpreter

namespace Scene

/-- How the processes have ended, if they all have. -/
def ends? (s : Scene) (pids : List Nat) : Option (List ExitStatus) := pids.mapM s.end?

/-- Takes processes out. -/
def reapAll (s : Scene) (pids : List Nat) : Scene := pids.foldl reap s

/-- Says on behalf of a shell of a process that it was ended by a signal. -/
def report (s : Scene) (pid : Nat) (status : ExitStatus) : Scene :=
  match status with
  | .code _ => s
  | .signal signal =>
    if signal.number = 2 ∨ signal.number = 13 then s
    else (s.write pid 2 (octetsOf (signalText signal ++ "\n"))).2

/-- Has a shell take notice of background processes that have ended; `told` are
those whose signals are reported. -/
def noteEnds (s : Scene) (pid : Nat) (sh : Interpreter) (told : List Nat) : Interpreter × Scene :=
  let ended := (sh.jobs.flatMap (·.pids)).filterMap fun child => (s.end? child).map (child, ·)
  let jobs := sh.jobs.map fun j =>
    { j with ends := j.ends ++ ended.filter fun e => j.pids.contains e.1 }
  let s := ended.foldl (fun s e => if told.contains e.1 then s.report pid e.2 else s) s
  ({ sh with jobs }, s.reapAll (ended.map (·.1)))

end Scene

end Overseer.Rehearsal
