/-
Overseer.Console.Request — what a user can ask for.
-/
import Overseer.Json.Value
import Overseer.Path

namespace Overseer.Console

/-- A service to be added, as it is described on the command line. -/
structure NewService where
  name : String
  shell : String
  root : Option String
  environment : Option String
  isDefault : Bool
  wantsPort : Bool
  directory : Path
deriving DecidableEq, Inhabited

/-- What is asked for. Where a name may be missing, the default service is meant. -/
inductive Request where
  | run (name : Option String) (detach : Bool) (exitAfter : Option Nat)
  | start (names : List String)
  | restart (name : Option String) (inPlace : Bool)
  | kill (name : Option String)
  | killAll
  | list
  | listAll
  | logs (name : Option String) (lines : Int)
  | watch (name : Option String) (exitAfter : Option Nat)
  | waitForLog (message : String) (name : Option String) (timeout : Nat)
  | clearLogs (name : Option String)
  | eraseDatabase
  | cleanup (vacuum : Bool)
  | addService (service : NewService)
  | assignPort (port : Nat)
deriving DecidableEq, Inhabited

/-- What is asked for and how it is to be told. -/
structure Invocation where
  request : Request
  json : Bool
  verbosity : Nat
deriving DecidableEq, Inhabited

namespace Request

open Json (Value)

/-- The word by which a request is made. -/
def word : Request → String
  | .run .. => "run"
  | .start .. => "start"
  | .restart .. => "restart"
  | .kill .. => "kill"
  | .killAll => "kill-all"
  | .list => "list"
  | .listAll => "list-all"
  | .logs .. => "logs"
  | .watch .. => "watch"
  | .waitForLog .. => "wait-for-log"
  | .clearLogs .. => "clear-logs"
  | .eraseDatabase => "erase-database"
  | .cleanup .. => "cleanup"
  | .addService .. => "add-service"
  | .assignPort .. => "assign-port"

/-- A name that may be missing. -/
def nameField (name : Option String) : String × Value := ("name", .ofOption .text name)

/-- The details of a request, by name. -/
def details : Request → Value
  | .run name detach exitAfter => .object [nameField name, ("detach", .bool detach),
      ("exit_after", .ofOption (fun n => .int n) exitAfter)]
  | .start names => .object [("names", .arr (names.map .text))]
  | .restart name inPlace => .object [nameField name, ("in_place", .bool inPlace)]
  | .kill name | .clearLogs name => .object [nameField name]
  | .killAll | .list | .listAll | .eraseDatabase => .object []
  | .logs name lines => .object [nameField name, ("lines", .int lines)]
  | .watch name exitAfter => .object [nameField name,
      ("exit_after", .ofOption (fun n => .int n) exitAfter)]
  | .waitForLog message name timeout => .object [("message", .text message), nameField name,
      ("timeout", .int timeout)]
  | .cleanup vacuum => .object [("vacuum", .bool vacuum)]
  | .addService s => .object [("name", .text s.name), ("shell", .text s.shell),
      ("root", .ofOption .text s.root), ("env", .ofOption .text s.environment),
      ("default", .bool s.isDefault), ("assign_port", .bool s.wantsPort),
      ("dir", .text s.directory.text)]
  | .assignPort port => .object [("port", .int port)]

end Request

end Overseer.Console
