/-
Overseer.Rehearsal.Turns — processes that take turns.

While the clock stands still, processes take steps in rounds, each a limited
number of steps in a round, as long as any of them can. Those that can take a
step stand in line: a process that is started or has waited for something comes
behind those that are there already, and those that were told to stop are not
there.
-/
import Overseer.Rehearsal.Interpreter.Step

namespace Overseer.Rehearsal

namespace Scene

/-! ## 1. Steps -/

/-- What a process wants to read next can be read, or it is known that it cannot be opened. -/
def canReadNext (s : Scene) : List Input → Bool
  | (_, .ok channel) :: _ => s.canRead (some channel)
  | _ => true

/-- A process can take a step. -/
def canStep (s : Scene) (p : Proc) : Bool :=
  if p.stopped then false
  else match p.work with
    | .shell sh => s.shellCanStep p sh
    | .program .. => true
    | .asleep till => decide (till ≤ s.clock)
    | .copying _ _ inputs => s.canReadNext inputs && s.canWrite p.pid
    | .digesting _ _ _ _ inputs => s.canReadNext inputs
    | .planning .. => s.canRead (s.channel? p.pid 0)
    | .repeating _ => s.canWrite p.pid
    | .feeding _ _ child? _ _ => child?.all fun child => (s.end? child).isSome
    | .ended _ => false

/-- Lets a process take a step. -/
def stepProc (s : Scene) (p : Proc) : Scene :=
  match p.work with
  | .shell sh => s.stepShell p sh
  | .program called name args environment => s.runProgram p.pid ⟨called, name⟩ args environment
  | .asleep _ => s.exit p.pid 0
  | .copying c code inputs => s.stepCopying p.pid c code inputs
  | .digesting c digest seen read inputs => s.stepDigesting p.pid c digest seen read inputs
  | .planning c plan read environment => s.stepPlanning p.pid c plan read environment
  | .repeating octets =>
    match s.write p.pid 1 octets with
    | (none, s) => s
    | (some _, s) => if s.isRunning p.pid then s.exit p.pid 1 else s
  | .feeding c commands child? code environment =>
    s.stepFeeding p.pid c commands child? code environment
  | .ended _ => s

/-! ## 2. Turns -/

/-- Lets a process take at most so many steps. -/
def runProc (pid : Nat) : Nat → Scene → Scene
  | 0, s => s
  | fuel + 1, s =>
    match s.proc? pid with
    | none => s
    | some p => if s.canStep p then runProc pid fuel (s.stepProc p) else s

/-- Has the processes come into line that can take a step by now: first those that were started
since the last pid was the given one. -/
def lineUp (s : Scene) (lastPid : Nat) : Scene :=
  let others := (s.procs.filter fun p => !s.line.contains p.pid && s.canStep p).map (·.pid)
  let (started, woken) := others.partition (lastPid < ·)
  { s with line := s.line ++ started ++ woken }

/-- The process of a pid takes its turn, of at most so many steps, and leaves its place in line. -/
def turnOf (steps : Nat) (s : Scene) (pid : Nat) : Scene :=
  (runProc pid steps { s with line := s.line.filter (· != pid) }).lineUp s.lastPid

/-- Lets every process that stands in line take its turn. -/
def runAll (s : Scene) (steps : Nat) : Scene := s.line.foldl (turnOf steps) s

/-- Some process can take a step. -/
def isBusy (s : Scene) : Bool := s.procs.any s.canStep

/-- Lets the processes play for at most so many rounds, while the clock stands still. -/
def play (s : Scene) : Nat → Scene
  | 0 => s
  | rounds + 1 => if s.isBusy then ((s.lineUp s.lastPid).runAll 20).play rounds else s

/-- When the next process wakes up. -/
def nextWake? (s : Scene) : Option Nat :=
  (s.procs.filterMap fun p =>
    match p.work with
    | .asleep till => some till
    | _ => none).min?

end Scene

end Overseer.Rehearsal
