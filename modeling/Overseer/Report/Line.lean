/-
Overseer.Report.Line — records as users see them.
-/
import Overseer.Report.Style
import Overseer.Report.Table
import Overseer.Supervisor.Inspect
import Overseer.Time.Calendar

namespace Overseer.Report

/-! ## 1. Times -/

/-- A time in days, hours, minutes and seconds; units of which there are none are left out. -/
def durationText (seconds : Nat) : String :=
  let units := [(seconds / 86400, "d"), (seconds / 3600 % 24, "h"), (seconds / 60 % 60, "m"),
    (seconds % 60, "s")]
  let parts := units.filter fun u => u.1 > 0
  if parts.isEmpty then "0s" else " ".intercalate (parts.map fun u => toString u.1 ++ u.2)

/-- The time of day of a time stamp, or the time stamp itself if it has no date. -/
def timeOfDay (t : Int) : String :=
  let text := (Time.timestampText t).toList
  match text.dropWhile (· != ' ') with
  | [] => String.ofList text
  | _ :: time => String.ofList (time.takeWhile (· != ' '))

/-! ## 2. Lines of output -/

/-- A line of output with its time and its source. -/
def logLine (colors : Bool) (r : LogRecord) : String :=
  let time := Style.dim.paint colors (timeOfDay r.time)
  let source (style : Style) (label : String) := style.paint colors label
  match r.type with
  | .stdout => time ++ " " ++ source .dim "[stdout]" ++ " " ++ r.content
  | .stderr => time ++ " " ++ source .red "[stderr]" ++ " " ++ r.content
  | .started =>
    time ++ " " ++ source .cyan "[process]" ++ " " ++ Style.green.paint colors r.content
  | .exited =>
    time ++ " " ++ source .cyan "[process]" ++ " " ++ Style.red.paint colors r.content

/-! ## 3. Tables -/

/-- What stands for nothing. -/
def dash : String := "-"

/-- A number, or a dash. -/
def numberCell (n? : Option Nat) : String := (n?.map toString).getD dash

/-- The end of a text that is too long, after three points. -/
def shorten (most : Nat) (text : String) : String :=
  let cs := text.toList
  if cs.length ≤ most then text
  else "..." ++ String.ofList (cs.drop (cs.length - (most - 3)))

/-- The word for running. -/
def runningCell (colors : Bool) : String := Style.green.paint colors "RUNNING"

/-- The head of a table of launches. -/
def processHead : List String :=
  ["id", "service", "directory", "pid", "port", "uptime", "status"]

/-- A launch as a row, after its number. -/
def processCells (colors : Bool) (now : Int) (r : ProcessRecord) : List String :=
  [r.service, shorten 40 r.directory.text, numberCell r.childPid?, numberCell r.port,
   durationText (r.uptime now), runningCell colors]

/-- A table of launches. -/
def processTable (colors : Bool) (now : Int) (records : List ProcessRecord) : String :=
  table processHead (records.map fun r => toString r.id :: processCells colors now r)

/-- The head of a table of services. -/
def serviceHead : List String := ["service", "status", "pid", "port", "uptime", "cwd"]

/-- A service as a row; only a running one shows its launch. -/
def serviceCells (colors : Bool) (now : Int) (s : Supervisor.ServiceStatus) : List String :=
  let state := if s.running then runningCell colors else Style.red.paint colors s.state
  let launch := if s.running then s.record else none
  [s.name, state, numberCell (launch.bind (·.childPid?)), numberCell (launch.bind (·.port)),
   (launch.map fun r => durationText (r.uptime now)).getD dash, s.directory.text]

/-- A table of services. -/
def serviceTable (colors : Bool) (now : Int) (services : List Supervisor.ServiceStatus) : String :=
  table serviceHead (services.map (serviceCells colors now))

end Overseer.Report
