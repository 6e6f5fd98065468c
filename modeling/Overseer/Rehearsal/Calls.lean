/-
Overseer.Rehearsal.Calls — a system call whose answers are laid down beforehand.

Processes are listed by the pid that the call takes. The call tells whether it
reached a process, which may die of the signal. Processes have no children
here, and none stays behind when it ends. Every signal that was sent is noted.
-/
import Overseer.Process.Control

namespace Overseer.Rehearsal

open Process (KillError Kernel)

/-- What a listed process does about signals. -/
inductive Temper where
  | mortal
  | stubborn
  | forbidden
  | invalid
deriving DecidableEq, Repr

/-- The processes that are listed, and the signals sent, latest first. -/
structure CallTable where
  processes : List (Int × Temper)
  sent : List (Int × Signal)

/-- A process of this temper dies of the signal. -/
def Temper.diesOf : Temper → Signal → Bool
  | .mortal, s => s == .term || s == .kill
  | .stubborn, s => s == .kill
  | _, _ => false

/-- Notes a signal. -/
def CallTable.note (pid : Int) (s? : Option Signal) (table : CallTable) : CallTable :=
  match s? with
  | none => table
  | some s => { table with sent := (pid, s) :: table.sent }

/-- Sends a signal, or without one asks only. -/
def CallTable.kill (pid : Int) (s? : Option Signal) : StateM CallTable (Except KillError Unit) :=
  fun table =>
    let table := table.note pid s?
    match table.processes.find? fun e => e.1 == pid with
    | none => (.error .noSuchProcess, table)
    | some (_, .forbidden) => (.error .notPermitted, table)
    | some (_, .invalid) => (.error .invalid, table)
    | some (_, temper) =>
      if s?.any temper.diesOf then
        (.ok (), { table with processes := table.processes.filter fun e => e.1 != pid })
      else (.ok (), table)

/-- The system call, with neither zombies nor children. -/
def CallTable.kernel : Kernel CallTable where
  kill := CallTable.kill
  isZombie := fun _ => pure false
  children := pure []

end Overseer.Rehearsal
