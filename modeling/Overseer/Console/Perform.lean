/-
Overseer.Console.Perform — doing what is asked for.

Commands that name services find the project of the working directory first,
so that a wrong name changes nothing. Starting several services finds all of
them before it launches any, and then tries each, whatever became of the others.
-/
import Overseer.Console.Request
import Overseer.Console.Terminal
import Overseer.Home

namespace Overseer.Console

open Json (Value)
open Launch (Environment)
open Supervisor

variable {σ : Type} (p : Platform σ) (settings : Settings)

/-! ## 1. Services -/

/-- The project of the working directory. -/
def currentProject : Cmd σ Project := do
  let tree := (← get).tree
  orFail (Project.discover tree tree.workingDirectory)

/-- A service of the current project. -/
def findService (name : Option String) : Cmd σ ResolvedService := do
  let project ← currentProject
  orFail (project.resolve name)

/-! ## 2. Launching -/

/-- Says which launch was ended to make room for a new one. -/
def stoppedText (old : ProcessRecord) : String :=
  s!"Stopped previous '{old.service}' (pid {old.pid})"

/-- Says what was launched. -/
def startedText (r : ProcessRecord) : String :=
  let port := match r.port with
    | some port => s!", port {port}"
    | none => ""
  let pid := match r.childPid? with
    | some pid => s!"pid {pid}"
    | none => "pid pending"
  s!"Started '{r.service}' ({pid}{port}, launch {r.id})"

/-- Tells of a launch. -/
def tellLaunch (r : RunReport) : Cmd σ Unit := tell r.toJson do
  r.replaced.forM fun old => inform (stoppedText old)
  praise (startedText r.record)

/-- The lines that were shown to a watcher, in order. -/
def shownLines (journal : List Event) : List LogRecord :=
  journal.reverse.flatMap fun e => match e with
    | .delivered rows => rows
    | _ => []

/-- How many rounds a watch without a time limit is followed. -/
def followRounds : Nat := 100000

/-- Follows output until the launch ends or the time is over; times are in seconds. -/
def follow (selector : Selector) (name : String) (exitAfter : Option Nat) : Cmd σ Unit := do
  modify fun s => { s with world := { s.world with journal := [] } }
  let options := { WatchOptions.standard with exitAfter := exitAfter.map (1000 * ·) }
  let ended ← supervise (attempt (watch p settings selector options followRounds (pure true)))
  sayLines (shownLines (← get).world.journal)
  let outcome := (← orFail ended).getD .interrupted
  tell outcome.toJson do
    say ""
    inform (outcome.text name)
  match outcome with
  | .stopped (some code) => if code ≠ 0 then fail s!"'{name}' exited with code {code}"
  | _ => return

/-- What is said before output is followed. -/
def sayWatching : Cmd σ Unit := do
  say "Press Ctrl+C to stop watching."
  say ""

/-- Launches a service and follows its output, unless it is to be left alone. -/
def performRun (name : Option String) (detach : Bool) (exitAfter : Option Nat) :
    Cmd σ Unit := do
  let service ← findService name
  let report ← supervise (run p settings service)
  if detach then tellLaunch report
  else
    unless (← get).json do
      tellLaunch report
      sayWatching
    follow p settings (.service service.key) service.name exitAfter

/-- How one of several launches went. -/
structure StartResult where
  name : String
  outcome : Except Fault RunReport

/-- How a launch went, as a document. -/
def StartResult.toJson (r : StartResult) : Value :=
  match r.outcome with
  | .ok report => .object [("name", .text r.name), ("record", report.record.toJson)]
  | .error f => .object [("name", .text r.name), ("error", .text f.message)]

/-- The launch failed. -/
def StartResult.failed (r : StartResult) : Bool :=
  match r.outcome with
  | .ok _ => false
  | .error _ => true

/-- Tells of one of several launches; documents are printed for all of them together. -/
def tellResult (r : StartResult) : Cmd σ Unit := do
  unless (← get).json do
    match r.outcome with
    | .ok report => tellLaunch report
    | .error f => regret s!"{r.name}: {f.message}"

/-- Launches services one after the other, by a store that is open. -/
def startEach : List ResolvedService → Cmd σ (List StartResult)
  | [] => return []
  | service :: rest => do
    let result := StartResult.mk service.name (← useStore (attempt (run p settings service)))
    tellResult result
    let others ← startEach rest
    return result :: others

/-- How many launches failed. -/
def failures (results : List StartResult) : Nat := (results.filter (·.failed)).length

/-- Tells of launches together: of each in a document, or how many went well if there are
several. -/
def tellTogether (results : List StartResult) : Cmd σ Unit := do
  let total := results.length
  tell (.arr (results.map (·.toJson))) do
    if total > 1 then say s!"Started {total - failures results} of {total} services"

/-- The names of the services that are wanted, of which the default one has none. -/
def wanted (names : List String) : List (Option String) :=
  if names.isEmpty then [none] else names.map some

/-- Finds every service that is named, or the default one. -/
def findAll (names : List String) : Cmd σ (List ResolvedService) := do
  let project ← currentProject
  (wanted names).mapM fun name => orFail (project.resolve name)

/-- Launches services in the background. -/
def performStart (names : List String) : Cmd σ Unit := do
  let services ← findAll names
  openStore
  let results ← startEach p settings services
  tellTogether results
  let failed := failures results
  if failed > 0 then fail s!"{failed} of {results.length} services failed to start"

/-- Launches a service anew, or has its wrapper do so. -/
def performRestart (name : Option String) (inPlace : Bool) : Cmd σ Unit := do
  let service ← findService name
  if inPlace then
    let record ← supervise (signalRestart p settings service.key)
    let wrapper := record.wrapperPid.getD 0
    succeed s!"Sent restart signal to '{service.name}' (wrapper pid {wrapper})" record.toJson
  else
    let report ← supervise (restart p settings service)
    tell report.toJson do
      if let some message := report.kill.message? then inform message
      tellLaunch report.run

/-! ## 3. Ending -/

/-- Ends a service. -/
def performKill (name : Option String) : Cmd σ Unit := do
  let service ← findService name
  let report ← supervise (kill p settings service.key)
  tell report.toJson do
    if let some message := report.message? then inform message
    report.killed.forM fun r => praise s!"Killed '{r.service}' (pid {r.pid}, launch {r.id})"

/-- Ends everything. -/
def performKillAll : Cmd σ Unit := do
  let report ← supervise (killAll p settings)
  tell report.toJson do
    match report.message? with
    | some message => inform message
    | none =>
      report.killed.forM fun r => praise s!"Killed {r.service} (pid {r.pid}) in {r.project.text}"
      report.alreadyDead.forM fun r => inform s!"{r.service} (pid {r.pid}) was already stopped"
      report.failed.forM fun f =>
        regret s!"Failed to kill {f.record.service} (pid {f.record.pid}): {f.fault.message}"
      let summary := report.summary
      say (s!"Found {summary.found}, killed {summary.killed}, "
        ++ s!"already stopped {summary.alreadyDead}, failed {summary.failed}")

/-! ## 4. Looking -/

/-- Shows the services of the project. -/
def performList : Cmd σ Unit := do
  let project ← currentProject
  let services ← supervise (listServices p settings project)
  let s ← get
  tell (.arr (services.map (·.toJson))) (say (Report.serviceTable s.colors s.world.now services))

/-- Shows what is running in every project. -/
def performListAll : Cmd σ Unit := do
  let records ← supervise (listRunning p settings none)
  let s ← get
  tell (recordList records) do
    if records.isEmpty then say "No active processes found."
    else say (Report.processTable s.colors s.world.now records)

/-- Shows the last lines of a service. -/
def performLogs (name : Option String) (lines : Int) : Cmd σ Unit := do
  let service ← findService name
  let (record, rows) ← supervise (logs p settings service.key lines)
  let document := Value.object [("process", .ofOption (·.toJson) record),
    ("logs", .arr (rows.map (·.toJson)))]
  tell document.sorted do
    if rows.isEmpty then
      say s!"No logs found for service '{service.name}' in '{service.project.text}'."
    else
      match record with
      | some r =>
        let started := Time.timestampText r.start
        say s!"=== Logs for '{service.name}' ({r.status.text}, started: {started}) ==="
      | none => say s!"=== Logs for '{service.name}' ==="
      sayLines rows

/-- Says that there is nothing to watch, and what else is running. -/
def nothingToWatch (key : ServiceKey) : Cmd σ Unit := do
  let running ← supervise (listRunning p settings none)
  tell (recordList running) do
    say s!"No running process found for service '{key.service}' in '{key.project.text}'."
    say ""
    say "Running processes:"
    if running.isEmpty then say "  (none)"
    running.forM fun r => say s!"  {r.service} ({r.project.text})"
  fail s!"Nothing to watch for '{key.service}'"

/-- Follows the output of a running service. -/
def performWatch (name : Option String) (exitAfter : Option Nat) : Cmd σ Unit := do
  let service ← findService name
  match ← supervise (look p fun s => s.active? service.key) with
  | none => nothingToWatch p settings service.key
  | some record =>
    unless (← get).json do
      inform s!"Watching '{record.service}' (pid {record.pid}, launch {record.id})"
      sayWatching
    follow p settings (.launch record.id) service.name exitAfter

/-- Waits until a service prints a message; the time is in seconds. -/
def performWait (message : String) (name : Option String) (timeout : Nat) : Cmd σ Unit := do
  let service ← findService name
  let outcome ← supervise (waitForLog p settings service.key message (1000 * timeout) 1000)
  tell outcome.toJson (pure ())
  match outcome with
  | .found line =>
    unless (← get).json do
      praise s!"Found message in '{service.name}'"
      say (Report.logLine (← get).colors line)
  | .notStarted => fail s!"No process started event found for '{service.name}'"
  | .exited code =>
    let code := match code with
      | some c => toString c
      | none => "unknown"
    fail s!"Process exited before finding message (exit code {code})"
  | .timedOut => fail s!"Timed out after {timeout}s waiting for '{message}'"

/-! ## 5. The store and the setup file -/

/-- Deletes the output of a service. -/
def performClearLogs (name : Option String) : Cmd σ Unit := do
  let service ← findService name
  let removed ← supervise (clearLogs p service.key)
  succeed s!"Cleared {removed} log lines for '{service.name}'" (.int removed)

/-- Deletes the store. -/
def performErase : Cmd σ Unit := do
  let s ← get
  let file := Home.storeFile s.stateDir
  let (erased, tree, failed?) := Store.erase s.tree (Home.storeFiles s.stateDir)
  let world := if erased.contains file then { s.world with store := .empty } else s.world
  set { s with tree, world }
  if let some e := failed? then fail e.message
  if erased.isEmpty then inform s!"No database found at {file.text}"
  else
    succeed "Database erased. A new one will be created on next use."
      (.arr (erased.map fun p => .text p.text))

/-- What a pass of retention deleted, as a document. -/
def cleanupDocument (r : CleanupReport) (vacuum : Bool) : Value :=
  .object [("expiredLogs", .int r.expiredLogs), ("failedProcesses", .int r.failedLaunches),
    ("logsOverCap", .int r.logsOverCap), ("orphanLogs", .int r.orphanLogs),
    ("successfulProcesses", .int r.successfulLaunches), ("vacuumed", .bool vacuum)]

/-- Deletes what is too old. -/
def performCleanup (vacuum : Bool) : Cmd σ Unit := do
  let r ← supervise (cleanup p settings .standard)
  let launches := r.failedLaunches + r.successfulLaunches
  let lines := r.expiredLogs + r.logsOverCap + r.orphanLogs
  tell (cleanupDocument r vacuum) do
    praise "Cleanup completed"
    say (s!"  Removed {launches} old processes ({r.failedLaunches} failed, "
      ++ s!"{r.successfulLaunches} successful)")
    say (s!"  Removed {lines} log lines ({r.expiredLogs} expired, "
      ++ s!"{r.logsOverCap} over the per-launch cap, {r.orphanLogs} orphaned)")

/-- The variables that are given as a document. -/
def readEnvironment : Option String → Cmd σ Environment
  | none => pure .empty
  | some text =>
    match (Json.parse? text).bind Environment.ofJson? with
    | some env => pure env
    | none => fail "--env must be a JSON object of strings"

/-- Adds a service to the setup file. -/
def performAddService (new : NewService) : Cmd σ Unit := do
  let environment ← readEnvironment new.environment
  let service : ServiceConfig :=
    ⟨new.name, new.shell, new.root.map Path.mk, environment, new.isDefault, new.wantsPort⟩
  let file ← onFiles (Project.insertService new.directory service)
  succeed s!"Added service '{new.name}' to {file.text}" (.text file.text)

/-- Assigns a port to the project. -/
def performAssignPort (port : Nat) : Cmd σ Unit := do
  if port = 0 then fail "Port must be between 1 and 65535"
  let shell ← get
  let (isFree, world) := (p.portIsFree port).run shell.world
  set { shell with world }
  if !isFree then fail s!"Port {port} is already in use"
  let project ← currentProject
  supervise (assignPort p project.directory port)
  succeed s!"Assigned port {port} to project {project.directory.text}" (.int port)

/-! ## 6. Every command -/

/-- Does what is asked for. -/
def perform : Request → Cmd σ Unit
  | .run name detach exitAfter => performRun p settings name detach exitAfter
  | .start names => performStart p settings names
  | .restart name inPlace => performRestart p settings name inPlace
  | .kill name => performKill p settings name
  | .killAll => performKillAll p settings
  | .list => performList p settings
  | .listAll => performListAll p settings
  | .logs name lines => performLogs p settings name lines
  | .watch name exitAfter => performWatch p settings name exitAfter
  | .waitForLog message name timeout => performWait p settings message name timeout
  | .clearLogs name => performClearLogs p name
  | .eraseDatabase => performErase
  | .cleanup vacuum => performCleanup p settings vacuum
  | .addService new => performAddService new
  | .assignPort port => performAssignPort p port

end Overseer.Console
