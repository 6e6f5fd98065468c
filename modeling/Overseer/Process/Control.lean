/-
Overseer.Process.Control — liveness and signals by way of the system.

A pid is a number of 32 bits without sign here and with sign in the system
call. Pid 0 is never handed to the system, where it would name a whole group. A
process whose parent has not yet taken notice of its end is dead. A tree is
signalled from its leaves to its root, and only the answer for the root counts.
-/
import Overseer.Fault
import Overseer.Process.Signal
import Overseer.Process.Tree
import Overseer.Word

namespace Overseer.Process

/-- Why a signal is not delivered. -/
inductive KillError where
  | noSuchProcess
  | notPermitted
  | invalid
deriving DecidableEq, Repr

/-- What the system does for us; `κ` is its state. -/
structure Kernel (κ : Type) where
  kill : Int → Option Signal → StateM κ (Except KillError Unit)
  isZombie : Nat → StateM κ Bool
  children : StateM κ Children

/-- A pid as the system call takes it. -/
def signedPid (pid : Nat) : Int := Word.wrap 32 pid

namespace Kernel

variable {κ : Type} (k : Kernel κ)

/-- The process exists and has not ended. -/
def isAlive (pid : Nat) : StateM κ Bool := do
  if pid = 0 then return false
  match ← k.kill (signedPid pid) none with
  | .ok () | .error .notPermitted => return !(← k.isZombie pid)
  | .error _ => return false

/-- Signals one process; false if it is gone. -/
def signal (pid : Nat) (s : Signal) : ExceptT Fault (StateM κ) Bool := do
  if pid = 0 then return false
  match ← k.kill (signedPid pid) (some s) with
  | .ok () => return true
  | .error .noSuchProcess => return false
  | .error .notPermitted => throw (.denied (.signal pid))
  | .error .invalid => throw (.failedIo (.os .invalidArgument))

/-- Signals processes one after the other, whatever comes of it. -/
def signalEach (s : Signal) : List Nat → StateM κ Unit
  | [] => return
  | pid :: rest => do
    let _ ← (k.signal pid s).run
    signalEach s rest

/-- Signals a process and all its descendants, leaves first; false if it is gone. -/
def killTree (pid : Nat) (s : Signal) : ExceptT Fault (StateM κ) Bool := do
  if pid = 0 then return false
  let table ← k.children
  k.signalEach s (descendants table pid).reverse
  k.signal pid s

end Kernel

end Overseer.Process
