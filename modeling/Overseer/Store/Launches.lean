/-
Overseer.Store.Launches — the operations on launches.

A service has at most one running launch: a new launch is refused while one is
running. A launch ends once: `markExited` changes a running launch only, so of
several parties that see it end the first one's exit code stays.
-/
import Overseer.Store.Basic

namespace Overseer.Store

/-! ## 1. Writing -/

/-- A service has a running launch. -/
def hasActive (s : Store) (key : ServiceKey) : Bool :=
  s.launches.any fun r => r.isActive && r.key == key

/-- What a second running launch of a service violates. -/
def activeKeyTaken : StoreFault :=
  .indexTaken ["processes.service_name", "processes.project_dir"]

/-- Records a new launch, running and with no pid yet, and gives its number. -/
def create (s : Store) (now : Int) (key : ServiceKey) (command : String) (directory : Path)
    (port : Option Nat) : Except StoreFault (Int × Store) := do
  let id ← nextNumber s.lastLaunch
  if s.hasActive key then throw activeKeyTaken
  let row : LaunchRow := {
    id, key, command, directory
    pid := 0
    wrapperPid := none
    port := port.map fun p => (p : Int)
    start := now
    finish := none
    running := 1
    exitCode := none }
  return (id, { s with launches := row :: s.launches, lastLaunch := id })

/-- Stores a row as it is, with its own number or the next one. -/
def insertLaunch (s : Store) (number? : Option Int) (row : LaunchRow) :
    Except StoreFault (Int × Store) := do
  let id ← match number? with
    | some id => pure id
    | none => nextNumber s.lastLaunch
  if s.launches.any fun r => r.id == id then throw (.keyTaken "processes.launch_id")
  if row.isActive && s.hasActive row.key then throw activeKeyTaken
  return (id, { s with
    launches := insertRow LaunchRow.id { row with id } s.launches
    lastLaunch := max s.lastLaunch id })

/-- Changes the launch of a number. -/
def updateLaunch (s : Store) (id : Int) (change : LaunchRow → LaunchRow) : Store :=
  { s with launches := s.launches.map fun r => if r.id = id then change r else r }

/-- Notes the child's pid. -/
def updatePid (s : Store) (id : Int) (pid : Nat) : Except StoreFault Store :=
  if s.rejectsPids && s.launches.any fun r => r.id == id then .error .pidRejected
  else .ok (s.updateLaunch id fun r => { r with pid := pid })

/-- Makes the store refuse pids of children from now on, or take them again. -/
def rejectPids (s : Store) (rejects : Bool) : Store := { s with rejectsPids := rejects }

/-- Notes the wrapper's pid. -/
def updateWrapperPid (s : Store) (id : Int) (pid : Nat) : Store :=
  s.updateLaunch id fun r => { r with wrapperPid := some (pid : Int) }

/-- Ends a running launch; tells whether it did. -/
def markExited (s : Store) (now id code : Int) : Bool × Store :=
  if s.launches.any fun r => r.id == id && r.isActive then
    (true, s.updateLaunch id fun r =>
      { r with running := 0, finish := some now, exitCode := some code })
  else (false, s)

/-! ## 2. Reading -/

/-- The launch of a number. -/
def launch? (s : Store) (id : Int) : Option ProcessRecord :=
  (s.launches.find? (·.id == id)).map (·.record)

/-- The newest running launch of a command line in a directory. -/
def activeFor? (s : Store) (command : String) (directory : Path) : Option ProcessRecord :=
  (s.launches.find? fun r => r.isActive && r.command == command && r.directory == directory).map
    (·.record)

/-- The newest running launch of a service. -/
def active? (s : Store) (key : ServiceKey) : Option ProcessRecord :=
  (s.launches.find? fun r => r.isActive && r.key == key).map (·.record)

/-- The newest launch of a service, running or not. -/
def latest? (s : Store) (key : ServiceKey) : Option ProcessRecord :=
  (s.launches.find? fun r => r.key == key).map (·.record)

/-- The running launches, of one project or of all, oldest first. -/
def running (s : Store) (project? : Option Path) : List ProcessRecord :=
  (s.launches.filter fun r => r.isActive && project?.all (· == r.key.project)).reverse.map
    (·.record)

/-- The ports held by running launches. -/
def usedPorts (s : Store) : List Nat :=
  (s.launches.filter (·.isActive)).reverse.filterMap fun r => r.port.bind (fits? 16)

/-- The exit code of a launch whose processes were found gone. -/
def foundDead : Int := -1

/-- Ends every launch of a list that is not alive; gives the launches it ended,
as they were before. -/
def sweepList (now : Int) (alive : ProcessRecord → Bool) (s : Store) :
    List ProcessRecord → List ProcessRecord × Store
  | [] => ([], s)
  | r :: rest =>
    if alive r then sweepList now alive s rest
    else
      let (changed, s) := s.markExited now r.id foundDead
      let (swept, s) := sweepList now alive s rest
      (if changed then r :: swept else swept, s)

/-- Ends every running launch that is not alive. -/
def sweepDead (s : Store) (now : Int) (alive : ProcessRecord → Bool) :
    List ProcessRecord × Store :=
  sweepList now alive s (s.running none)

end Overseer.Store
