/-
Overseer.Supervisor.Run — launching services.

Launching a service ends what it replaces: the running launch of the same
service, and a running launch of the same command line in the same directory.
Then the launch is recorded, its wrapper is started, and the child's pid is
waited for. A pid that was reported means that the child started, even if it
has ended since; a wrapper that ends without one means that it did not.
-/
import Overseer.Service.Project
import Overseer.Supervisor.Stop

namespace Overseer.Supervisor

variable {σ : Type} (p : Platform σ) (settings : Settings)

/-! ## 1. Ports -/

/-- A port that no running launch holds and no project asked for. -/
def allocatePort : Act σ Nat := do
  let used ← look p fun s => s.usedPorts
  let assigned ← look p fun s => s.assignedPorts.map (·.2)
  Port.allocateFrom Port.firstPort Port.lastPort (used ++ assigned) p.portIsFree

/-- The project's own port if it can be had, or else another one. -/
def pickPort (project : Path) : Act σ Nat := do
  match ← look p fun s => s.assignedPort? project with
  | none => allocatePort p
  | some port =>
    let used ← look p fun s => s.usedPorts
    if used.contains port then allocatePort p
    else if ← p.portIsFree port then return port
    else allocatePort p

/-! ## 2. Starting -/

/-- Why a launch did not start: the last line it wrote to its error output. -/
def startFault (id : Int) : Act σ Fault := fun w =>
  match (access p fun s => (s.lastOfType id .stderr).map fun line => (line, s)).run w with
  | (.ok (some line), w) => (.ok (.startFailed (.reported line.content)), w)
  | (_, w) => (.ok (.startFailed (.wrapperExited id)), w)

/-- Waits for the child's pid; `left` counts the looks that remain after the next one. -/
def pollPid (id : Int) (wrapper : Wrapper) (left : Nat) : Act σ ProcessRecord := do
  match ← look p fun s => s.launch? id with
  | none => throw (.noProcess (.launch id))
  | some record =>
    if record.pid ≠ 0 then return record
    let exit ← p.exited? wrapper
    if !record.running || exit.isSome then
      let _ ← markExited p id ((exit.bind fun code => code).getD startFailedCode)
      throw (← startFault p id)
    match left with
    | 0 => return record
    | left + 1 =>
      p.sleep pollTime
      pollPid id wrapper left

/-- Waits for the child's pid, for as long as the settings say. -/
def awaitPid (id : Int) (wrapper : Wrapper) : Act σ ProcessRecord :=
  pollPid p id wrapper (Port.looks settings.pidTimeout pollTime)

/-- What the wrapper of a launch is told. -/
def payloadFor (service : ResolvedService) (id : Int) (port : Option Nat) : Launch.Payload where
  command := Launch.Command.ofLine service.shell
  directory := service.directory
  launch := id
  environment := service.environment
  port := port

/-- What launching a service comes to. -/
structure RunReport where
  record : ProcessRecord
  replaced : List ProcessRecord
deriving DecidableEq, Inhabited

/-- Ends what is running under a description, and gives it. -/
def replace (find : Store → Option ProcessRecord) : Act σ (List ProcessRecord) := do
  match ← look p find with
  | none => return []
  | some existing =>
    stopRecord p settings existing
    return [existing]

/-- Starts the wrapper of a recorded launch and waits for the child's pid. -/
def startWrapper (service : ResolvedService) (id : Int) (port : Option Nat) :
    Act σ ProcessRecord := do
  let payload := payloadFor service id port
  (note (.launched payload) : StateM (World σ) Unit)
  match ← attempt (p.spawn settings.wrapper payload) with
  | .error fault =>
    let _ ← markExited p id startFailedCode
    throw fault
  | .ok wrapper =>
    access p fun s => .ok ((), s.updateWrapperPid id wrapper.pid)
    awaitPid p settings id wrapper

/-- Launches a service in place of what it replaces. -/
def run (service : ResolvedService) : Act σ RunReport := do
  let _ ← sweep p settings
  let same ← replace p settings fun s => s.active? service.key
  let alike ← replace p settings fun s => s.activeFor? service.shell service.directory
  let port ← if service.wantsPort then some <$> pickPort p service.project else pure none
  let now := (← get).now
  let id ← access p fun s => s.create now service.key service.shell service.directory port
  let record ← startWrapper p settings service id port
  return ⟨record, same ++ alike⟩

/-! ## 3. Restarting -/

/-- What restarting a service comes to. -/
structure RestartReport where
  kill : KillReport
  run : RunReport
deriving DecidableEq, Inhabited

/-- Ends a service and launches it again. -/
def restart (service : ResolvedService) : Act σ RestartReport := do
  let kill ← kill p settings service.key
  let run ← run p settings service
  return ⟨kill, run⟩

/-- Asks the wrapper of a running launch to restart its child in place. -/
def signalRestart (key : ServiceKey) : Act σ ProcessRecord := do
  let _ ← sweep p settings
  match ← look p fun s => s.active? key with
  | none => throw (.noProcess (.service key))
  | some record =>
    match record.wrapperPid with
    | none => throw (.noProcess (.wrapper key))
    | some pid =>
      if ← signalOne p pid .usr1 then return record
      else throw (.noProcess (.deadWrapper pid key))

end Overseer.Supervisor
