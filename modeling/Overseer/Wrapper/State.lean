/-
Overseer.Wrapper.State — the life of a wrapped child, and what is asked of a wrapper.

A wrapper starts its child, runs it, and may be asked to restart it or to shut
down. A restart is taken up only while the child runs; to shut down is taken up
once, and nothing is after the end.
-/
import Overseer.Process.Signal

namespace Overseer.Wrapper

/-- Where the wrapper stands with its child. -/
inductive State where
  | starting
  | running
  | restarting
  | shuttingDown
  | terminated
deriving DecidableEq, Repr, Inhabited

namespace State

/-- The name of the state. -/
def text : State → String
  | .starting => "starting"
  | .running => "running"
  | .restarting => "restarting"
  | .shuttingDown => "shutting-down"
  | .terminated => "terminated"

/-- The state of a name. -/
def ofText? (s : String) : Option State :=
  [starting, running, restarting, shuttingDown, terminated].find? fun t => t.text == s

/-- Every state is read back from its name. -/
theorem ofText?_text (t : State) : ofText? t.text = some t := by cases t <;> decide

/-- A request to restart is taken up. -/
def acceptsRestart : State → Bool
  | .running => true
  | _ => false

/-- A request to shut down is taken up. -/
def acceptsShutdown : State → Bool
  | .shuttingDown | .terminated => false
  | _ => true

end State

/-- What a wrapper can be asked for. -/
inductive Control where
  | restart
  | shutdown
deriving DecidableEq, Repr

/-- What a signal to the wrapper asks for. -/
def Control.ofSignal? (s : Signal) : Option Control :=
  if s = .usr1 then some .restart
  else if s = .term ∨ s = .int then some .shutdown
  else none

end Overseer.Wrapper
