/-
Overseer.Report.Document — what operations come to, as documents.

Every report names its parts as the text reports do; a part that may be absent
as a whole is left out, a value that is not known is `null`.
-/
import Overseer.Json.Printer
import Overseer.Supervisor.Run
import Overseer.Supervisor.Wait
import Overseer.Supervisor.Watch

namespace Overseer

open Json (Value)

/-- Records in a list. -/
def recordList (records : List ProcessRecord) : Value := .arr (records.map (·.toJson))

/-- A field that is left out if there is no value. -/
def presentField (name : String) : Option Value → List (String × Value)
  | none => []
  | some v => [(name, v)]

namespace Supervisor

/-- What killing a service comes to. -/
def KillReport.toJson (r : KillReport) : Value :=
  .object ([("service_name", .text r.key.service), ("project_dir", .text r.key.project.text),
    ("killed", recordList r.killed)] ++ presentField "message" (r.message?.map .text))

/-- A launch that could not be ended. -/
def KillFailure.toJson (f : KillFailure) : Value :=
  .object [("record", f.record.toJson), ("error", .text f.fault.message)]

/-- How many launches were found, and how many met each fate. -/
def KillAllSummary.toJson (s : KillAllSummary) : Value :=
  .object [("total_found", .int s.found), ("killed", .int s.killed), ("failed", .int s.failed),
    ("already_dead", .int s.alreadyDead)]

/-- What killing everything comes to. -/
def KillAllReport.toJson (r : KillAllReport) : Value :=
  .object ([("killed", recordList r.killed), ("failed", .arr (r.failed.map (·.toJson))),
    ("already_dead", recordList r.alreadyDead),
    ("summary", r.summary.toJson)] ++ presentField "message" (r.message?.map .text))

/-- What launching a service comes to. -/
def RunReport.toJson (r : RunReport) : Value :=
  .object [("record", r.record.toJson), ("replaced", recordList r.replaced)]

/-- What restarting a service comes to. -/
def RestartReport.toJson (r : RestartReport) : Value :=
  .object [("kill", r.kill.toJson), ("run", r.run.toJson)]

/-- How a service stands. -/
def ServiceStatus.toJson (s : ServiceStatus) : Value :=
  .object [("name", .text s.name), ("cwd", .text s.directory.text), ("state", .text s.state),
    ("record", .ofOption (·.toJson) s.record)]

/-- How a wait ended. -/
def WaitOutcome.toJson : WaitOutcome → Value
  | .found line => .object [("outcome", .text "found"), ("line", line.toJson)]
  | .exited code => .object [("outcome", .text "exited"), ("exit_code", .ofOption .int code)]
  | .notStarted => .object [("outcome", .text "not_started")]
  | .timedOut => .object [("outcome", .text "timed_out")]

/-- Why a watch ended. -/
def WatchOutcome.toJson : WatchOutcome → Value
  | .stopped code => .object [("reason", .text "stopped"), ("exit_code", .ofOption .int code)]
  | .disappeared => .object [("reason", .text "disappeared")]
  | .timedOut => .object [("reason", .text "timed_out")]
  | .interrupted => .object [("reason", .text "interrupted")]

end Supervisor

end Overseer
