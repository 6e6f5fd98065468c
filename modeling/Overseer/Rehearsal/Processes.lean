/-
Overseer.Rehearsal.Processes — processes whose reactions are laid down beforehand.

A process that is listed reacts to each kind of signal as it is told: it dies
at once, or slowly, or not at all, or the signal is refused or finds nobody. A
process that dies may take others with it. A process that is not listed is dead.
-/
import Overseer.Fault
import Overseer.Process.Signal

namespace Overseer.Rehearsal

/-- How a process reacts to a signal. -/
inductive Reaction where
  | die
  | ignore
  | slow
  | deny
  | gone
deriving DecidableEq, Repr

/-- A process and its reactions. `lingers` says how often it is still seen alive
after it began to die slowly, and `leaving` how often it will be yet. -/
structure Actor where
  pid : Nat
  alive : Bool
  onTerm : Reaction
  onKill : Reaction
  onOther : Reaction
  lingers : Nat
  takes : List Nat
  leaving : Option Nat
deriving DecidableEq

/-- The processes that are listed. -/
abbrev Cast := List Actor

/-- The listed process of a pid, if it is alive. -/
def living? (pid : Nat) (cast : Cast) : Option Actor :=
  cast.find? fun a => a.pid == pid && a.alive

/-- The reaction to a signal. -/
def Actor.reaction (a : Actor) (s : Signal) : Reaction :=
  if s = .term then a.onTerm else if s = .kill then a.onKill else a.onOther

/-- The processes with some of them dead. -/
def bury (pids : List Nat) (cast : Cast) : Cast :=
  cast.map fun a => if pids.contains a.pid then { a with alive := false, leaving := none } else a

/-- A process dies, with those it takes along. -/
def dies (pid : Nat) (cast : Cast) : Cast :=
  match living? pid cast with
  | none => cast
  | some a => bury (pid :: a.takes) cast

/-- Notes how often a process will yet be seen alive. -/
def setLeaving (pid : Nat) (left : Nat) (cast : Cast) : Cast :=
  cast.map fun a => if a.pid = pid then { a with leaving := some left } else a

/-- Asks whether a process is alive. -/
def askAlive (pid : Nat) : StateM Cast Bool := fun cast =>
  match living? pid cast with
  | none => (false, cast)
  | some a =>
    match a.leaving with
    | none => (true, cast)
    | some 0 => (false, dies pid cast)
    | some (n + 1) => (true, setLeaving pid n cast)

/-- Signals a process; false if it is gone. -/
def deliver (pid : Nat) (s : Signal) : StateM Cast (Except Fault Bool) := fun cast =>
  match living? pid cast with
  | none => (.ok false, cast)
  | some a =>
    match a.reaction s with
    | .die => (.ok true, dies pid cast)
    | .ignore => (.ok true, cast)
    | .slow => (.ok true, setLeaving pid a.lingers cast)
    | .deny => (.error (.denied (.signal pid)), cast)
    | .gone => (.ok false, cast)

/-- Lists a process, in place of one with the same pid. -/
def enlist (a : Actor) (cast : Cast) : Cast := a :: cast.filter fun b => b.pid != a.pid

/-- The pids of the processes that are alive, ascending. -/
def livingPids (cast : Cast) : List Nat := ((cast.filter (·.alive)).map (·.pid)).mergeSort

end Overseer.Rehearsal
