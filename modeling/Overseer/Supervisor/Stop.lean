/-
Overseer.Supervisor.Stop — ending launches.

A launch is asked to end first and forced to end when it has not done so
within a grace period. Stopping one launch signals its wrapper and then its
child, and a refused signal stops the whole operation. Killing everything looks
at each launch on its own: what fails for one is reported for that one.
-/
import Overseer.Supervisor.Liveness

namespace Overseer.Supervisor

variable {σ : Type} (p : Platform σ) (settings : Settings)

/-! ## 1. One launch -/

/-- Looks until all are dead; `left` counts the looks that remain after the next one. -/
def pollDead (pids : List Nat) : Nat → StateM (World σ) Bool
  | 0 => allDead p pids
  | left + 1 => do
    if ← allDead p pids then return true
    p.sleep pollTime
    pollDead pids left

/-- Waits until all are dead, for at most so many milliseconds. -/
def waitDead (pids : List Nat) (limit : Nat) : StateM (World σ) Bool :=
  pollDead p pids (Port.looks limit pollTime)

/-- How long to wait after a forced end, in milliseconds. -/
def forcedGrace : Nat := 500

/-- The pids of a launch, wrapper first. -/
def pidsToStop (r : ProcessRecord) : List Nat := r.wrapperPid.toList ++ r.childPid?.toList

/-- Ends a launch. An exit code that someone else has noted meanwhile is kept. -/
def stopRecord (r : ProcessRecord) : Act σ Unit := do
  let pids := pidsToStop r
  killTrees p .term pids
  unless ← waitDead p pids settings.killGrace do
    killTrees p .kill pids
    let _ ← waitDead p pids forcedGrace
  let _ ← markExited p r.id killedCode

/-! ## 2. One service -/

/-- What killing a service comes to. -/
structure KillReport where
  key : ServiceKey
  killed : List ProcessRecord
deriving DecidableEq, Inhabited

/-- Says so if there was nothing to kill. -/
def KillReport.message? (r : KillReport) : Option String :=
  if r.killed.isEmpty then
    some (s!"No running processes found for service '{r.key.service}' "
      ++ s!"in project '{r.key.project.text}'")
  else none

/-- Stops launches in order. -/
def stopEach : List ProcessRecord → Act σ Unit
  | [] => return
  | r :: rest => do
    stopRecord p settings r
    stopEach rest

/-- Ends every running launch of a service. -/
def kill (key : ServiceKey) : Act σ KillReport := do
  let _ ← sweep p settings
  let running ← look p fun s => s.running (some key.project)
  let killed := running.filter fun r => r.service == key.service
  stopEach p settings killed
  return ⟨key, killed⟩

/-! ## 3. Everything -/

/-- A launch that could not be ended, and why. -/
structure KillFailure where
  record : ProcessRecord
  fault : Fault
deriving DecidableEq

/-- What became of launches, each on its own. -/
structure KillBuckets where
  killed : List ProcessRecord := []
  failed : List KillFailure := []
  alreadyDead : List ProcessRecord := []
deriving DecidableEq, Inhabited

/-- How many launches were found, and how many met each fate. -/
structure KillAllSummary where
  found : Nat := 0
  killed : Nat := 0
  failed : Nat := 0
  alreadyDead : Nat := 0
deriving DecidableEq, Inhabited

/-- What killing everything comes to, launch by launch and in numbers. The message
says so if there was nothing to kill. -/
structure KillAllReport extends KillBuckets where
  summary : KillAllSummary := {}
  message? : Option String := none
deriving DecidableEq, Inhabited

/-- What is said if there was nothing to kill. -/
def nothingToKill : String := "No running processes found to kill."

/-- The pids of a launch, child first. -/
def pidsToForce (r : ProcessRecord) : List Nat := r.childPid?.toList ++ r.wrapperPid.toList

/-- Ends a launch with a short pause in place of a long one; false if it was dead already. -/
def forceStop (r : ProcessRecord) : Act σ Bool := do
  if !(← isRecordAlive p settings r) then
    let _ ← markExited p r.id Store.foundDead
    return false
  let pids := pidsToForce r
  killTrees p .term pids
  p.sleep settings.killAllGrace
  let left ← survivors p pids
  unless left.isEmpty do
    killTrees p .kill left
    p.sleep settings.killAllGrace
  let _ ← markExited p r.id killedCode
  return true

/-- Ends launches in order, each on its own. -/
def forceEach : List ProcessRecord → Act σ KillBuckets
  | [] => return {}
  | r :: rest => do
    let outcome ← attempt (forceStop p settings r)
    let buckets ← forceEach rest
    match outcome with
    | .ok true => return { buckets with killed := r :: buckets.killed }
    | .ok false => return { buckets with alreadyDead := r :: buckets.alreadyDead }
    | .error fault => return { buckets with failed := ⟨r, fault⟩ :: buckets.failed }

/-- Ends every running launch. Those that were found are counted before the first
is ended, and those that met each fate after the last. -/
def killAll : Act σ KillAllReport := do
  let running ← look p fun s => s.running none
  if running.isEmpty then return { message? := some nothingToKill }
  let buckets ← forceEach p settings running
  let summary : KillAllSummary := ⟨running.length, buckets.killed.length, buckets.failed.length,
    buckets.alreadyDead.length⟩
  return { toKillBuckets := buckets, summary }

end Overseer.Supervisor
