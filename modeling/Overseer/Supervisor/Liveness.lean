/-
Overseer.Supervisor.Liveness — which launches are still going on.

A launch is alive while its child or its wrapper is. A launch that has neither
pid yet is being started, and counts as alive until the time for reporting a
pid is over. Sweeping ends the running launches that are not alive.
-/
import Overseer.Supervisor.World

namespace Overseer.Supervisor

variable {σ : Type} (p : Platform σ) (settings : Settings)

/-- The time for reporting a pid, in whole seconds as a number of 64 bits with sign. -/
def pidSeconds : Int := ProcessRecord.wrap64 (settings.pidTimeout / 1000 : Nat)

/-- Has no pid yet and is young enough to get one. -/
def isLaunching (now : Int) (r : ProcessRecord) : Bool :=
  r.pid == 0 && r.wrapperPid.isNone
    && decide (ProcessRecord.wrap64 (now - r.start) < pidSeconds settings)

/-- Asks about a pid, if there is one. -/
def checkSome : Option Nat → StateM (World σ) Bool
  | none => return false
  | some pid => check p pid

/-- The launch is alive. The child is asked about first, and the wrapper in any case. -/
def isRecordAlive (r : ProcessRecord) : StateM (World σ) Bool := do
  let child ← checkSome p r.childPid?
  let wrapper ← checkSome p r.wrapperPid
  let now := (← get).now
  return child || wrapper || isLaunching settings now r

/-- Ends the launches of a list that are not alive; gives those it ended, as listed. -/
def sweepEach : List ProcessRecord → Act σ (List ProcessRecord)
  | [] => return []
  | r :: rest => do
    if ← isRecordAlive p settings r then sweepEach rest
    else
      let changed ← markExited p r.id Store.foundDead
      let swept ← sweepEach rest
      return if changed then r :: swept else swept

/-- Ends the running launches that are not alive. -/
def sweep : Act σ (List ProcessRecord) := do
  let running ← look p fun s => s.running none
  sweepEach p settings running

end Overseer.Supervisor
