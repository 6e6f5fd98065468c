/-
Overseer.Supervisor.Inspect — looking at launches and looking after the store.

What is shown as running has been swept first, so that nothing dead is shown as
running. Assigning a port is the exception: it goes by what the store says.
-/
import Overseer.Log.Cursor
import Overseer.Service.Project
import Overseer.Supervisor.Liveness

namespace Overseer.Supervisor

open Log (Cursor)

variable {σ : Type} (p : Platform σ) (settings : Settings)

/-! ## 1. Launches -/

/-- The running launches, of one project or of all. -/
def listRunning (project? : Option Path) : Act σ (List ProcessRecord) := do
  let _ ← sweep p settings
  look p fun s => s.running project?

/-- A configured service as it stands: its running launch, or else its latest. -/
structure ServiceStatus where
  name : String
  directory : Path
  running : Bool
  record : Option ProcessRecord
deriving DecidableEq, Inhabited

/-- Running or stopped, in a word. -/
def ServiceStatus.state (s : ServiceStatus) : String := if s.running then "RUNNING" else "STOPPED"

/-- How a service stands. -/
def status (s : ResolvedService) : Act σ ServiceStatus := do
  match ← look p fun store => store.active? s.key with
  | some record => return ⟨s.name, s.directory, true, some record⟩
  | none =>
    let latest ← look p fun store => store.latest? s.key
    return ⟨s.name, s.directory, false, latest⟩

/-- How services stand. -/
def statusEach : List ResolvedService → Act σ (List ServiceStatus)
  | [] => return []
  | s :: rest => do
    let first ← status p s
    let others ← statusEach rest
    return first :: others

/-- How every service of a project stands. -/
def listServices (project : Project) : Act σ (List ServiceStatus) := do
  let _ ← sweep p settings
  statusEach p project.resolveAll

/-! ## 2. Output -/

/-- Reads on with a cursor. -/
def readOn (cursor : Cursor) (limit : Option Int) : Act σ (List LogRecord × Cursor) :=
  access p fun s => (cursor.nextWith s limit).map fun answer => (answer, s)

/-- The latest launch of a service and the service's last lines. -/
def logs (key : ServiceKey) (lines : Int) : Act σ (Option ProcessRecord × List LogRecord) := do
  let _ ← sweep p settings
  let record ← look p fun s => s.latest? key
  let (rows, _) ← readOn p (.tailing (.service key) (some lines)) (some lines)
  return (record, rows)

/-- Deletes the output of a service. -/
def clearLogs (key : ServiceKey) : Act σ Nat := access p fun s => .ok (s.clear key)

/-! ## 3. The store -/

/-- Sweeps, then deletes what the policy does not keep. -/
def cleanup (policy : RetentionPolicy) : Act σ CleanupReport := do
  let _ ← sweep p settings
  let now := (← get).now
  access p fun s => .ok (s.cleanup now policy)

/-- The launch belongs to another project and holds the port. -/
def holdsElsewhere (project : Path) (port : Nat) (r : ProcessRecord) : Bool :=
  r.port == some port && !r.project.sameParts project

/-- Assigns a port to a project, unless a running launch of another one holds it. -/
def assignPort (project : Path) (port : Nat) : Act σ Unit := do
  let running ← look p fun s => s.running none
  if running.any (holdsElsewhere project port) then throw (.portTaken port)
  access p fun s => .ok ((), s.assignPort project port)

end Overseer.Supervisor
