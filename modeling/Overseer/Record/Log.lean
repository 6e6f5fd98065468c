/-
Overseer.Record.Log — one line of a launch's output.

Lines come from the child's two outputs; the wrapper adds lines of its own
that mark when a child started and when the launch ended.
-/
import Overseer.Fault
import Overseer.Json.Decode

namespace Overseer

/-- Where a line comes from. -/
inductive LogType where
  | stdout
  | stderr
  | started
  | exited
deriving DecidableEq, Repr, Inhabited

namespace LogType

/-- The name under which the type is stored. -/
def text : LogType → String
  | .stdout => "stdout"
  | .stderr => "stderr"
  | .started => "processStarted"
  | .exited => "processExited"

/-- The type of a name. -/
def ofText? (s : String) : Option LogType :=
  [stdout, stderr, started, exited].find? fun t => t.text == s

/-- The type of a name, as the store reads it. -/
def ofText (s : String) : Except StoreFault LogType :=
  match ofText? s with
  | some t => .ok t
  | none => .error (.badLogType s)

/-- Every type is read back from its name. -/
theorem ofText?_text (t : LogType) : ofText? t.text = some t := by
  cases t <;> decide

/-- Written by the wrapper about the launch, not by the child. -/
def isMarker : LogType → Bool
  | .started | .exited => true
  | _ => false

/-- Reads a type: its name, or an object whose only field has that name and is `null`. -/
def ofJson? : Json.Value → Option LogType
  | .str (some s) => ofText? s
  | .obj [(some s, .null)] => ofText? s
  | _ => none

end LogType

/-- One line of a launch's output. -/
structure LogRecord where
  id : Int
  launch : Int
  service : String
  project : Path
  line : Int
  content : String
  type : LogType
  time : Int
deriving DecidableEq, Repr, Inhabited

namespace LogRecord

/-- The fields of a line. -/
def layout : Json.Layout :=
  [("id", .required), ("launch_id", .required), ("service_name", .required),
   ("project_dir", .required), ("line_number", .required), ("content", .required),
   ("log_type", .required), ("timestamp", .required)]

/-- Reads a line's fields. -/
def ofFields? : List (Option Json.Value) → Option LogRecord
  | [some id, some launch, some service, some project, some line, some content, some type,
      some time] => do
    return {
      id := ← id.int64?
      launch := ← launch.int64?
      service := ← service.text?
      project := ⟨← project.text?⟩
      line := ← line.int64?
      content := ← content.text?
      type := ← LogType.ofJson? type
      time := ← time.int64? }
  | _ => none

/-- Reads a line. -/
def ofJson? (v : Json.Value) : Option LogRecord := (v.fields? layout).bind ofFields?

/-- The line as a document. -/
def toJson (r : LogRecord) : Json.Value :=
  .object [("id", .int r.id), ("launch_id", .int r.launch), ("service_name", .text r.service),
    ("project_dir", .text r.project.text), ("line_number", .int r.line),
    ("content", .text r.content), ("log_type", .text r.type.text), ("timestamp", .int r.time)]

end LogRecord

end Overseer
