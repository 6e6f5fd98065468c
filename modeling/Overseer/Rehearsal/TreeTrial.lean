/-
Overseer.Rehearsal.TreeTrial — killing a tree of processes on a scene.

A script starts some descendants and writes their pids. Then its whole tree is
killed, and it is seen who is alive before, between and after.
-/
import Overseer.Rehearsal.Production

namespace Overseer.Rehearsal

open Wrapper (Order Stream)

/-- What comes of killing the tree of a script's processes. -/
structure TreeTrial where
  aliveBefore : Bool
  before : List Bool
  killed : Bool
  zombieAlive : Bool
  status : Option ExitStatus
  after : List Bool
  again : Bool

/-- The numbers that were written, a line each. -/
def writtenPids (s : Scene) : List Nat :=
  let octets := (s.heard.reverse.filter (·.1 == Stream.out)).flatMap (·.2)
  (Wrapper.linesOf octets).filterMap String.toNat?

/-- Plays a scene until a condition holds, for at most so many turns. -/
def Scene.playUntil (holds : Scene → Bool) : Nat → Scene → Scene
  | 0, s => s
  | turns + 1, s =>
    let s := s.play 10
    if holds s then s
    else
      let wake? := if s.isBusy then none else s.nextWake?.filter (s.clock < ·)
      playUntil holds turns { s with clock := wake?.getD (s.clock + 1) }

/-- How long descendants may last after the end of the script, in milliseconds. -/
def lastingTime : Nat := 5000

/-- Runs a script until it has written the pids of so many descendants, and
kills its tree. -/
def tryKillTree (tree : FileTree) (script : String) (descendants : Nat) (signal : Signal) :
    TreeTrial :=
  let order : Order := ⟨⟨"sh", ["-c", script]⟩, tree.workingDirectory, .empty⟩
  let (pid?, s) := (Scene.bare tree [] usualEnvironment).launch order
  let root := pid?.toOption.getD 0
  let hasEnded (s : Scene) : Bool := (s.end? root).isSome
  let s := s.playUntil (fun s => descendants ≤ (writtenPids s).length || hasEnded s) 60000
  let pids := (writtenPids s).take descendants
  let isAlive (pid : Nat) : StateM Scene Bool := Scene.kernel.isAlive pid
  let kill (s : Scene) : Bool × Scene :=
    let (r, s) := (Scene.kernel.killTree root signal).run s
    (r.toOption.getD false, s)
  let (aliveBefore, s) := isAlive root s
  let (before, s) := (pids.mapM isAlive).run s
  let (killed, s) := kill s
  let s := s.playUntil hasEnded 60000
  let (zombieAlive, s) := isAlive root s
  let status := s.end? root
  let ended := s.clock
  let s := s.reap root
  let areGone (s : Scene) : Bool := pids.all fun pid => !(isAlive pid s).1
  let s := s.playUntil (fun s => areGone s || decide (s.clock ≥ ended + lastingTime)) 60000
  let (after, s) := (pids.mapM isAlive).run s
  let (again, _) := kill s
  ⟨aliveBefore, before, killed, zombieAlive, status, after, again⟩

end Overseer.Rehearsal
