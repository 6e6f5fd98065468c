/-
Overseer.Wrapper.Step — what happens to a wrapper, in any order.

A `Move` is one thing that happens: a child writes, closes an output or ends, a
queued line is taken up, a request comes in, a time is over, or other parties
use the store. A move that does not fit what the wrapper waits for changes
nothing. A history is any list of moves, and `perform` takes them one by one,
so a law of all histories is proved step by step.
-/
import Overseer.Wrapper.Run

namespace Overseer.Wrapper

/-- One thing that happens. -/
inductive Move where
  /-- Somebody writes to an output of the child. -/
  | wrote (stream : Stream) (octets : List UInt8)
  /-- Nobody can write to an output any more. -/
  | closed (stream : Stream)
  /-- The wrapper takes up the next line. -/
  | take
  /-- The wrapper takes up a request. -/
  | request (control : Control)
  /-- The child ends, and the wrapper takes notice. -/
  | exited (status : ExitStatus)
  /-- The time is over in which an output may stay open after the child's end. -/
  | drainTimeOver
  /-- The pause before a restart is over. -/
  | pauseOver
  /-- It is time to look at the port again. -/
  | lookDue
  /-- The clock shows another time. -/
  | clock (now : Int)
  /-- Other parties use the store. -/
  | others (use : Store → Store)

namespace Run

variable {σ : Type}

/-- The reader of an output, while the output is open. -/
def reader? (r : Run σ) : Stream → Option Reader
  | .out => r.out
  | .err => r.err

/-- Changes the reader of an output. -/
def setReader (r : Run σ) (stream : Stream) (reader? : Option Reader) : Run σ :=
  match stream with
  | .out => { r with out := reader? }
  | .err => { r with err := reader? }

/-- Queues lines of an output. -/
def enqueue (r : Run σ) (stream : Stream) (lines : List String) : Run σ :=
  { r with queue := r.queue ++ lines.map fun text => ⟨stream, text⟩ }

/-- Hears octets of an output and queues the lines they end. -/
def hear (r : Run σ) (stream : Stream) (octets : List UInt8) : Run σ :=
  match r.reader? stream with
  | none => r
  | some reader =>
    let (lines, reader) := reader.feed octets
    (r.setReader stream (some reader)).enqueue stream lines

/-- Hears the end of an output and queues the line that is left. -/
def hearEnd (r : Run σ) (stream : Stream) : Run σ :=
  match r.reader? stream with
  | none => r
  | some reader => (r.setReader stream none).enqueue stream reader.close

/-- Gives up the output that is waited for: the normal one, or if that is
closed the other one. What stands after its last newline is lost. -/
def giveUp (r : Run σ) : Run σ :=
  if r.out.isSome then { r with out := none } else { r with err := none }

end Run

variable {σ : Type} (t : Task) (h : Host σ)

/-- Goes on if only an open output was waited for. -/
def settleIfDraining (r : Run σ) : Run σ :=
  match r.stand with
  | .draining sequel => settle t sequel r
  | _ => r

/-- Takes up a request. Before a restart there is no child to signal: a request
to shut down ends the launch, and one to restart says nothing new. -/
def takeRequest (control : Control) (r : Run σ) : Run σ :=
  match r.stand with
  | .attending pid =>
    let r := r.note (.heard control)
    match control with
    | .restart => requestRestart t h pid r
    | .shutdown => requestShutdown h pid r
  | .pausing status | .probing status _ =>
    let r := r.note (.heard control)
    match control with
    | .restart => r
    | .shutdown => finish t status.number (.ok status.number) { r with state := .shuttingDown }
  | _ => r

/-- Takes notice of the child's end. -/
def takeExit (status : ExitStatus) (r : Run σ) : Run σ :=
  match r.stand with
  | .attending pid => settle t (.exited status) (r.note (.reaped pid))
  | .abandoning pid fault => settle t (.failed fault) (r.note (.reaped pid))
  | _ => r

/-- Lets one thing happen. -/
def step (r : Run σ) : Move → Run σ
  | .wrote stream octets => r.hear stream octets
  | .closed stream => settleIfDraining t (r.hearEnd stream)
  | .take =>
    match r.stand, r.queue with
    | .attending _, line :: queue => persist t { r with queue } line
    | _, _ => r
  | .request control => takeRequest t h control r
  | .exited status => takeExit t status r
  | .drainTimeOver =>
    match r.stand with
    | .draining sequel => settle t sequel r.giveUp
    | _ => r
  | .pauseOver =>
    match r.stand with
    | .pausing status => endPause t h status r
    | _ => r
  | .lookDue =>
    match r.stand, t.payload.port with
    | .probing status left, some port => probePort t h port status left r
    | _, _ => r
  | .clock now => { r with now }
  | .others use => { r with store := use r.store }

/-- Lets things happen one after the other. -/
def perform (r : Run σ) (moves : List Move) : Run σ := moves.foldl (step t h) r

end Overseer.Wrapper
