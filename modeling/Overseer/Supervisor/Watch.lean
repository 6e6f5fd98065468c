/-
Overseer.Supervisor.Watch — following a service's output.

A watch delivers the last lines and then, at intervals, every new one. In each
round the launch is looked at before the lines are read, so that what was
written before it ended is still delivered. A watch ends with the launch, or
when the launch is gone, the time is over or the watcher stops; it never
touches the launch.
-/
import Overseer.Supervisor.Inspect

namespace Overseer.Supervisor

open Log (Cursor)

/-- Why a watch ended. -/
inductive WatchOutcome where
  | stopped (code : Option Int)
  | disappeared
  | timedOut
  | interrupted
deriving DecidableEq, Inhabited

/-- The reason in words, for a service of the given name. -/
def WatchOutcome.text (name : String) : WatchOutcome → String
  | .stopped (some code) =>
    if code = 0 then s!"Process '{name}' has stopped: completed successfully"
    else s!"Process '{name}' has stopped: failed with exit code {code}"
  | .stopped none => s!"Process '{name}' has stopped"
  | .disappeared => s!"Process '{name}' is no longer tracked"
  | .timedOut | .interrupted => "Stopped watching, process is still running in background"

/-- How to watch; times are in milliseconds. -/
structure WatchOptions where
  interval : Nat
  exitAfter : Option Nat
  initialLines : Int
deriving DecidableEq

/-- A second between looks, and the last hundred lines. -/
def WatchOptions.standard : WatchOptions := ⟨1000, none, 100⟩

variable {σ : Type} (p : Platform σ) (settings : Settings)

/-- The launch that is watched. -/
def watched (selector : Selector) : Act σ (Option ProcessRecord) :=
  look p fun s => match selector with
    | .service key => s.latest? key
    | .launch id => s.launch? id

/-- What the state of the launch decides. -/
def outcomeOf? : Option ProcessRecord → Option WatchOutcome
  | none => some .disappeared
  | some r => if r.running then none else some (.stopped r.exitCode)

/-- Shows lines to the watcher, if there are any. -/
def deliver (rows : List LogRecord) : Act σ Unit :=
  if rows.isEmpty then pure () else (note (.delivered rows) : StateM (World σ) Unit)

/-- Rounds of looking; `wanted` asks whether the watcher goes on, and `fuel`
bounds the rounds. With a time limit the time is over at the last round. -/
def watchRounds (selector : Selector) (interval : Nat) (timed : Bool)
    (wanted : StateM (World σ) Bool) : Nat → Cursor → Act σ (Option WatchOutcome)
  | 0, _ => return none
  | fuel + 1, cursor => do
    let _ ← sweep p settings
    let record ← watched p selector
    let (rows, cursor) ← readOn p cursor none
    deliver rows
    match outcomeOf? record with
    | some outcome => return some outcome
    | none =>
      if !(← wanted) then return some .interrupted
      if timed && fuel == 0 then return some .timedOut
      p.sleep interval
      watchRounds selector interval timed wanted fuel cursor

/-- Follows the output that is selected. Without a time limit the watch may not
end within the given number of rounds; then there is no outcome. -/
def watch (selector : Selector) (options : WatchOptions) (rounds : Nat)
    (wanted : StateM (World σ) Bool) : Act σ (Option WatchOutcome) := do
  let first := some options.initialLines
  let (rows, cursor) ← readOn p (.tailing selector first) first
  deliver rows
  let interval := max options.interval 1
  match options.exitAfter with
  | none => watchRounds p settings selector interval false wanted rounds cursor
  | some limit =>
    watchRounds p settings selector interval true wanted
      (max 1 (Port.looks limit interval)) cursor

end Overseer.Supervisor
