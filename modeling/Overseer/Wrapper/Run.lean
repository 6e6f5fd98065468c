/-
Overseer.Wrapper.Run — one launch in the hands of its wrapper.

A wrapper starts the child, notes its pid, and writes every line it hears to
the store, with lines of its own between them; all of them are numbered through
from 1, however often the child is restarted. What the wrapper asks of the
system is answered by a `Host`. What it does then and what it waits for next is
a `Run`: the wrapper attends to a child, or waits for one to die that it gave
up, or for the last output of a dead one, or for the right moment to restart;
and in the end there is a result.

A child is held by the stands `attending` and `abandoning` and by no other, so
no signal can be sent to a pid whose process was already reaped.
-/
import Overseer.Launch.Payload
import Overseer.Log.ClearScreen
import Overseer.Port
import Overseer.Process.Signal
import Overseer.Store.Launches
import Overseer.Store.Output
import Overseer.Store.Retention
import Overseer.Wrapper.Reader
import Overseer.Wrapper.State

namespace Overseer.Wrapper

/-! ## 1. What is asked for and what comes of it -/

/-- What a wrapper is set to; times are in milliseconds. -/
structure Options where
  /-- The pause between the end of a child and the start of the next. -/
  restartDelay : Nat
  /-- How long the port may stay in use after that. -/
  portWait : Nat
  /-- How long each output may stay open after the child's end. -/
  drainTime : Nat
  /-- What to clean up after the first start. -/
  cleanup : Option RetentionPolicy
deriving DecidableEq

/-- The usual options. -/
def Options.standard : Options := ⟨500, 5000, 500, some .standard⟩

/-- What a wrapper is to do: run a payload for a service. -/
structure Task where
  payload : Launch.Payload
  key : ServiceKey
  options : Options

/-- A child to be started. -/
structure Order where
  command : Launch.Command
  directory : Path
  environment : Launch.Environment
deriving DecidableEq

/-- The child of a task. The port it is to use is among its variables. -/
def Task.order (t : Task) : Order where
  command := t.payload.command
  directory := t.payload.directory
  environment :=
    match t.payload.port with
    | none => t.payload.environment
    | some port => t.payload.environment.set "PORT" (toString port)

/-- What a wrapper asks of the system; `σ` is all that the answers depend on. -/
structure Host (σ : Type) where
  /-- Starts a child and gives its pid. -/
  spawn : Order → StateM σ (Except IoFault Nat)
  /-- Signals a process and its descendants; false if it is gone. -/
  killTree : Nat → Signal → StateM σ (Except Fault Bool)
  /-- Nobody uses the port. -/
  portIsFree : Nat → StateM σ Bool

/-- What is left to do when the output of a dead child has been heard. -/
inductive Sequel where
  | exited (status : ExitStatus)
  | failed (fault : Fault)

/-- What the wrapper waits for. -/
inductive Stand where
  /-- Lines, requests and the end of its child. -/
  | attending (pid : Nat)
  /-- The end of a child whose pid the store did not take. -/
  | abandoning (pid : Nat) (fault : Fault)
  /-- The last output of a dead child. -/
  | draining (sequel : Sequel)
  /-- The end of the pause before a restart. -/
  | pausing (status : ExitStatus)
  /-- The next look at the port, after which `left` more remain. -/
  | probing (status : ExitStatus) (left : Nat)
  /-- Nothing more. -/
  | ended (result : Except Fault Int)

/-- What the wrapper did and what it was asked. -/
inductive Deed where
  | started (pid : Nat)
  | reaped (pid : Nat)
  | signalled (pid : Nat) (signal : Signal)
  | heard (control : Control)
deriving DecidableEq

/-- A launch in the hands of its wrapper. Deeds are kept latest first. -/
structure Run (σ : Type) where
  store : Store
  now : Int
  outside : σ
  state : State
  stand : Stand
  nextLine : Int
  out : Option Reader
  err : Option Reader
  queue : List Line
  deeds : List Deed

/-- The exit code of a launch whose child did not start. -/
def startFailedCode : Int := 127

/-! ## 2. Writing to the store -/

variable {σ : Type} (t : Task)

/-- Notes a deed. -/
def Run.note (deed : Deed) (r : Run σ) : Run σ := { r with deeds := deed :: r.deeds }

/-- Writes a line, under the next number whether or not the store takes it. -/
def append (type : LogType) (content : String) (r : Run σ) : Run σ :=
  let store :=
    match r.store.append r.now t.payload.launch t.key r.nextLine content type with
    | .ok (_, store) => store
    | .error _ => r.store
  { r with nextLine := r.nextLine + 1, store }

/-- Writes a line of the child; what would clear the screen is taken out of its
normal output. -/
def persist (r : Run σ) (line : Line) : Run σ :=
  match line.stream with
  | .out => append t .stdout (Log.stripClearScreen line.text) r
  | .err => append t .stderr line.text r

/-- Ends the launch with an exit code and the run with a result. -/
def finish (code : Int) (result : Except Fault Int) (r : Run σ) : Run σ :=
  let r := append t .exited s!"Process exited with code {code}" { r with state := .terminated }
  { r with
    store := (r.store.markExited r.now t.payload.launch code).2
    stand := .ended result }

/-- How a failed start is told to those who read the output. -/
def startDetail : Fault → String
  | .startFailed cause => cause.message
  | fault => fault.message

/-- Ends the launch because a child could not be started. -/
def failStart (fault : Fault) (r : Run σ) : Run σ :=
  finish t startFailedCode (.error fault) (append t .stderr (startDetail fault) r)

/-! ## 3. The child -/

variable (h : Host σ)

/-- Signals the child's tree; the answer is the fault if it is refused. -/
def signalChild (pid : Nat) (s : Signal) (r : Run σ) : Option Fault × Run σ :=
  let (answer, outside) := h.killTree pid s r.outside
  let r := Run.note (.signalled pid s) { r with outside }
  match answer with
  | .ok _ => (none, r)
  | .error fault => (some fault, r)

/-- How a start is told to those who read the output. -/
def startedText (again : Bool) (pid : Nat) : String :=
  if again then s!"Process restarted (pid {pid})" else s!"Process started (pid {pid})"

/-- Starts the child, for the first time or again, and attends to it. A child
whose pid the store does not take is killed. -/
def startChild (again : Bool) (r : Run σ) : Run σ :=
  match h.spawn t.order r.outside with
  | (.error cause, outside) =>
    failStart t (.startFailed (.command t.payload.command.display cause))
      { r with outside, state := .starting }
  | (.ok pid, outside) =>
    let r := Run.note (.started pid)
      { r with outside, state := .starting, out := some .empty, err := some .empty }
    match r.store.updatePid t.payload.launch pid with
    | .error cause =>
      { (signalChild h pid .kill r).2 with stand := .abandoning pid (.store cause) }
    | .ok store =>
      { append t .started (startedText again pid) { r with store } with
        state := .running, stand := .attending pid }

/-- Cleans up, if the wrapper is set to. -/
def cleanUp (r : Run σ) : Run σ :=
  match t.options.cleanup with
  | none => r
  | some policy => { r with store := (r.store.cleanup r.now policy).2 }

/-- A run at its beginning: the child is started, and if it was, old things are
cleaned up. -/
def begin (store : Store) (now : Int) (outside : σ) : Run σ :=
  let r := startChild t h false {
    store, now, outside
    state := .starting
    stand := .ended (.ok 0)
    nextLine := 1
    out := none
    err := none
    queue := []
    deeds := [] }
  match r.stand with
  | .attending _ => cleanUp t r
  | _ => r

/-- Kills the child so that it can be started again, if it runs. -/
def requestRestart (pid : Nat) (r : Run σ) : Run σ :=
  if r.state.acceptsRestart then
    let r := append t .stdout "Restart signal received" r
    match signalChild h pid .term { r with state := .restarting } with
    | (none, r) => r
    | (some fault, r) =>
      { append t .stderr s!"Restart failed: {fault.message}" r with state := .running }
  else r

/-- Kills the child for good, unless it was killed for a restart already. -/
def requestShutdown (pid : Nat) (r : Run σ) : Run σ :=
  if r.state.acceptsShutdown then
    let wasRestarting := r.state == .restarting
    let r := { r with state := .shuttingDown }
    if wasRestarting then r else (signalChild h pid .term r).2
  else r

/-! ## 4. The end of a child -/

/-- Goes on when the output of a dead child has been heard: with the pause
before a restart if one was asked for, and else to the end. -/
def proceed (sequel : Sequel) (r : Run σ) : Run σ :=
  match sequel with
  | .failed fault => failStart t fault r
  | .exited status =>
    if r.state = .restarting then { r with stand := .pausing status }
    else finish t status.number (.ok status.number) r

/-- Writes the lines still queued and goes on, once no output is open any more. -/
def settle (sequel : Sequel) (r : Run σ) : Run σ :=
  if r.out.isNone && r.err.isNone then
    proceed t sequel (r.queue.foldl (persist t) { r with queue := [] })
  else { r with stand := .draining sequel }

/-- Looks at the port and starts the child again if nobody uses it; after the
last look the restart is given up. -/
def probePort (port : Nat) (status : ExitStatus) (left : Nat) (r : Run σ) : Run σ :=
  match h.portIsFree port r.outside with
  | (true, outside) => startChild t h true { r with outside }
  | (false, outside) =>
    match left with
    | left + 1 => { r with outside, stand := .probing status left }
    | 0 =>
      finish t status.number (.ok status.number)
        (append t .stderr s!"Port {port} still in use, restart abandoned" { r with outside })

/-- Goes on after the pause before a restart: at once if there is no port to wait for. -/
def endPause (status : ExitStatus) (r : Run σ) : Run σ :=
  match t.payload.port with
  | none => startChild t h true r
  | some port => probePort t h port status (Port.looks t.options.portWait 100) r

end Overseer.Wrapper
