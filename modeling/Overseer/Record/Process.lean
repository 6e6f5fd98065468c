/-
Overseer.Record.Process — the record of one launch.

A record is made when a service is launched and says who was launched, where,
under which pids and port, since when and until when. The child's pid is 0
until the wrapper reports it.
-/
import Overseer.Json.Decode
import Overseer.Service.Name
import Overseer.Word

namespace Overseer

/-- The record of one launch. -/
structure ProcessRecord where
  id : Int
  service : String
  command : String
  directory : Path
  project : Path
  pid : Nat
  wrapperPid : Option Nat
  port : Option Nat
  start : Int
  finish : Option Int
  running : Bool
  exitCode : Option Int
deriving DecidableEq, Repr, Inhabited

/-- How a launch stands. -/
inductive ProcessStatus where
  | running
  | exited
  | failed
deriving DecidableEq, Repr

/-- The status in a word. -/
def ProcessStatus.text : ProcessStatus → String
  | .running => "running"
  | .exited => "exited"
  | .failed => "failed"

namespace ProcessRecord

/-- The service that was launched. -/
def key (r : ProcessRecord) : ServiceKey := ⟨r.service, r.project⟩

/-- The child's pid, once it is known. -/
def childPid? (r : ProcessRecord) : Option Nat := if r.pid = 0 then none else some r.pid

/-- A stopped launch has exited if its exit code is known to be 0. -/
def status (r : ProcessRecord) : ProcessStatus :=
  if r.running then .running else if r.exitCode = some 0 then .exited else .failed

/-- A number of 64 bits with sign, wrapped around at the ends. -/
def wrap64 (i : Int) : Int := Word.wrap 64 i

/-- The seconds from the start to the end, or to now. -/
def uptime (r : ProcessRecord) (now : Int) : Nat :=
  (wrap64 (r.finish.getD now - r.start)).toNat

/-- The fields of a record. -/
def layout : Json.Layout :=
  [("launch_id", .required), ("service_name", .required), ("command_line", .required),
   ("working_directory", .required), ("project_dir", .required), ("pid", .required),
   ("wrapper_pid", .nullable), ("assigned_port", .nullable), ("start_time", .required),
   ("end_time", .nullable), ("is_running", .required), ("exit_code", .nullable)]

/-- Reads a record's fields. -/
def ofFields? : List (Option Json.Value) → Option ProcessRecord
  | [some id, some service, some command, some directory, some project, some pid, wrapperPid,
      port, some start, finish, some running, exitCode] => do
    return {
      id := ← id.int64?
      service := ← service.text?
      command := ← command.text?
      directory := ⟨← directory.text?⟩
      project := ⟨← project.text?⟩
      pid := ← pid.nat? 32
      wrapperPid := ← Json.optional? (Json.Value.nat? 32) wrapperPid
      port := ← Json.optional? (Json.Value.nat? 16) port
      start := ← start.int64?
      finish := ← Json.optional? Json.Value.int64? finish
      running := ← running.bool?
      exitCode := ← Json.optional? Json.Value.int32? exitCode }
  | _ => none

/-- Reads a record. -/
def ofJson? (v : Json.Value) : Option ProcessRecord := (v.fields? layout).bind ofFields?

/-- The record as a document; what is not known is `null`. -/
def toJson (r : ProcessRecord) : Json.Value :=
  .object [("launch_id", .int r.id), ("service_name", .text r.service),
    ("command_line", .text r.command), ("working_directory", .text r.directory.text),
    ("project_dir", .text r.project.text), ("pid", .int r.pid),
    ("wrapper_pid", .ofOption (fun n => .int n) r.wrapperPid),
    ("assigned_port", .ofOption (fun n => .int n) r.port), ("start_time", .int r.start),
    ("end_time", .ofOption .int r.finish), ("is_running", .bool r.running),
    ("exit_code", .ofOption .int r.exitCode)]

end ProcessRecord

end Overseer
