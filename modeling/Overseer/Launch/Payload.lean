/-
Overseer.Launch.Payload — what a wrapper is told to run.

The payload travels from the supervisor to the wrapper as one document. The
command, its arguments, the directory and the number of the launch have to be
there; the environment and the port may be missing.
-/
import Overseer.Fault
import Overseer.Json.Decode
import Overseer.Json.Parser
import Overseer.Json.Printer
import Overseer.Launch.CommandLine
import Overseer.Launch.Environment

namespace Overseer.Launch

/-- What a wrapper is told to run. -/
structure Payload where
  command : Command
  directory : Path
  launch : Int
  environment : Environment
  port : Option Nat
deriving DecidableEq, Inhabited

namespace Payload

/-- The fields of a payload. -/
def layout : Json.Layout :=
  [("command", .required), ("args", .required), ("cwd", .required), ("launchId", .required),
   ("env", .defaulted), ("assignedPort", .defaulted)]

/-- Reads a payload's fields. -/
def ofFields? : List (Option Json.Value) → Option Payload
  | [some program, some args, some cwd, some launch, env, port] => do
    return {
      command := ⟨← program.text?, ← args.list? Json.Value.text?⟩
      directory := ⟨← cwd.text?⟩
      launch := ← launch.int64?
      environment := ← Json.orDefault? .empty Environment.ofJson? env
      port := ← Json.optional? (Json.Value.nat? 16) port }
  | _ => none

/-- Reads a payload; its command must hold more than white space. -/
def ofText (text : String) : Except PayloadFault Payload :=
  match (Json.parse? text).bind fun v => (v.fields? layout).bind ofFields? with
  | none => .error .malformed
  | some payload =>
    if Text.isBlankText payload.command.program then .error .emptyCommand else .ok payload

/-- The payload as a document; a missing port is left out. -/
def toJson (p : Payload) : Json.Value :=
  .object ([("command", .text p.command.program),
    ("args", .arr (p.command.args.map .text)),
    ("cwd", .text p.directory.text),
    ("launchId", .int p.launch),
    ("env", p.environment.toJson)]
    ++ match p.port with
      | none => []
      | some port => [("assignedPort", .int port)])

/-- The payload as it is sent. -/
def text (p : Payload) : String := p.toJson.compact

end Payload

end Overseer.Launch
