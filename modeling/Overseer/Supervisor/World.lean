/-
Overseer.Supervisor.World — what the supervisor acts on.

The supervisor acts on a store, by a clock, through a platform: liveness of
processes, signals, ports, wrappers and waiting. The platform's state is left
open, and so is what it does to the store: whenever it is asked anything, and
whenever the store is about to be used, other parties may have acted. The
journal notes what the supervisor asked for and what it showed, latest first.
-/
import Overseer.Launch.Payload
import Overseer.Port
import Overseer.Process.Signal
import Overseer.Store.Launches
import Overseer.Store.Output
import Overseer.Store.Ports
import Overseer.Store.Retention

namespace Overseer.Supervisor

/-- What the supervisor asked of the platform, and the lines it gave a watcher. -/
inductive Event where
  | checked (pid : Nat) (alive : Bool)
  | signalled (tree : Bool) (pid : Nat) (signal : Signal)
  | launched (payload : Launch.Payload)
  | delivered (lines : List LogRecord)

/-- The store, the clock in seconds, the journal, and all else. -/
structure World (σ : Type) where
  store : Store
  now : Int
  journal : List Event
  outside : σ

/-- An action that can fail. -/
abbrev Act (σ : Type) := ExceptT Fault (StateM (World σ))

/-- A wrapper that was started. -/
structure Wrapper where
  pid : Nat
deriving DecidableEq

/-- What the supervisor needs from its surroundings. -/
structure Platform (σ : Type) where
  /-- The process exists and has not ended. -/
  isAlive : Nat → StateM (World σ) Bool
  /-- Signals one process; false if it is gone. -/
  signal : Nat → Signal → Act σ Bool
  /-- Signals a process and its descendants; false if it is gone. -/
  killTree : Nat → Signal → Act σ Bool
  /-- Nobody uses the port. -/
  portIsFree : Nat → StateM (World σ) Bool
  /-- Starts a wrapper program with its payload. -/
  spawn : Path → Launch.Payload → Act σ Wrapper
  /-- Whether the wrapper has exited, and with which code if it was no signal. -/
  exited? : Wrapper → StateM (World σ) (Option (Option Int))
  /-- Lets milliseconds pass. -/
  sleep : Nat → StateM (World σ) Unit
  /-- What other parties do before the store is used. -/
  others : StateM (World σ) Unit := pure ()

/-- What a supervisor is set to; times are in milliseconds. -/
structure Settings where
  wrapper : Path
  killGrace : Nat
  killAllGrace : Nat
  pidTimeout : Nat
deriving DecidableEq

/-- The usual settings. -/
def Settings.standard (wrapper : Path) : Settings := ⟨wrapper, 3000, 100, 5000⟩

/-- How long to wait between two looks at processes, in milliseconds. -/
def pollTime : Nat := 50

/-- The exit code of a launch that was killed. -/
def killedCode : Int := -9

/-- The exit code of a launch whose wrapper or child did not start. -/
def startFailedCode : Int := 127

variable {σ : Type} (p : Platform σ)

/-- Does something and gives its fault, if any, as an answer. -/
def attempt {α : Type} (a : Act σ α) : Act σ (Except Fault α) := ExceptT.lift (ExceptT.run a)

/-! ## 1. The store -/

/-- Uses the store, after the other parties. -/
def access {α : Type} (f : Store → Except StoreFault (α × Store)) : Act σ α := do
  p.others
  let w ← get
  match f w.store with
  | .ok (a, store) =>
    set { w with store }
    return a
  | .error cause => throw (.store cause)

/-- Reads the store. -/
def look {α : Type} (f : Store → α) : Act σ α := access p fun s => .ok (f s, s)

/-- Marks a launch as ended now. -/
def markExited (id code : Int) : Act σ Bool := do
  let now := (← get).now
  access p fun s => .ok (s.markExited now id code)

/-! ## 2. Processes -/

/-- Adds to the journal. -/
def note (e : Event) : StateM (World σ) Unit := modify fun w => { w with journal := e :: w.journal }

/-- Asks whether a process is alive. -/
def check (pid : Nat) : StateM (World σ) Bool := do
  let alive ← p.isAlive pid
  note (.checked pid alive)
  return alive

/-- Signals a process and its descendants. -/
def killTree (pid : Nat) (s : Signal) : Act σ Bool := do
  (note (.signalled true pid s) : StateM (World σ) Unit)
  p.killTree pid s

/-- Signals one process. -/
def signalOne (pid : Nat) (s : Signal) : Act σ Bool := do
  (note (.signalled false pid s) : StateM (World σ) Unit)
  p.signal pid s

/-- Signals processes and their descendants in order, until one is refused. -/
def killTrees (s : Signal) : List Nat → Act σ Unit
  | [] => return
  | pid :: rest => do
    let _ ← killTree p pid s
    killTrees s rest

/-- Asks about processes in order until one is alive; tells whether none is. -/
def allDead : List Nat → StateM (World σ) Bool
  | [] => return true
  | pid :: rest => do
    if ← check p pid then return false
    allDead rest

/-- The processes that are alive. -/
def survivors : List Nat → StateM (World σ) (List Nat)
  | [] => return []
  | pid :: rest => do
    let alive ← check p pid
    let others ← survivors rest
    return if alive then pid :: others else others

end Overseer.Supervisor
