/-
Overseer.Service.Setup — the services that a project configures.

A setup file lists services: what each runs, where below the project it runs,
with which variables, whether it is the one meant when no name is given, and
whether it wants a port. `SetupFile.validate` refuses what could not be run or
not be told apart; it looks at the services in order and reports the first
fault, and only a file that is otherwise in order is refused for having two
defaults.
-/
import Overseer.Fault
import Overseer.Json.Decode
import Overseer.Json.Parser
import Overseer.Json.Printer
import Overseer.Launch.Environment
import Overseer.Text.Blank

namespace Overseer

open Launch (Environment)

/-- A service as it is configured. -/
structure ServiceConfig where
  name : String
  shell : String
  root : Option Path
  environment : Environment
  isDefault : Bool
  wantsPort : Bool
deriving DecidableEq, Inhabited

/-- The services of a project. -/
structure SetupFile where
  services : List ServiceConfig
deriving DecidableEq, Inhabited

namespace ServiceConfig

/-- The fields of a service. -/
def layout : Json.Layout :=
  [("name", .required), ("shell", .required), ("root", .defaulted), ("env", .defaulted),
   ("default", .defaulted), ("assignPort", .defaulted)]

/-- Reads a service's fields. -/
def ofFields? : List (Option Json.Value) → Option ServiceConfig
  | [some name, some shell, root, env, isDefault, wantsPort] => do
    return {
      name := ← name.text?
      shell := ← shell.text?
      root := (← Json.optional? Json.Value.text? root).map Path.mk
      environment := ← Json.orDefault? .empty Environment.ofJson? env
      isDefault := ← Json.orDefault? false Json.Value.bool? isDefault
      wantsPort := ← Json.orDefault? false Json.Value.bool? wantsPort }
  | _ => none

/-- Reads a service. -/
def ofJson? (v : Json.Value) : Option ServiceConfig := (v.fields? layout).bind ofFields?

/-- The service as a document; what is as by default is left out. -/
def toJson (s : ServiceConfig) : Json.Value :=
  .object ([("name", .text s.name), ("shell", .text s.shell)]
    ++ (match s.root with
      | none => []
      | some root => [("root", .text root.text)])
    ++ (if s.environment.isEmpty then [] else [("env", s.environment.toJson)])
    ++ (if s.isDefault then [("default", .bool true)] else [])
    ++ (if s.wantsPort then [("assignPort", .bool true)] else []))

/-- Why a service is refused, if the names in `seen` are taken. -/
def fault? (s : ServiceConfig) (seen : List String) : Option SetupFault :=
  if Text.isBlankText s.name then some .blankName
  else if !isServiceName s.name then some (.badName s.name)
  else if Text.isBlankText s.shell then some (.blankShell s.name)
  else if seen.contains s.name then some (.duplicateName s.name)
  else match s.root with
    | none => none
    | some root => if root.staysInside then none else some (.badRoot s.name root.text)

end ServiceConfig

namespace SetupFile

/-- Why the first faulty service is refused, if the names in `seen` are taken. -/
def firstFault? (seen : List String) : List ServiceConfig → Option SetupFault
  | [] => none
  | s :: rest =>
    match s.fault? seen with
    | some fault => some fault
    | none => firstFault? (s.name :: seen) rest

/-- Why the services are refused. -/
def fault? (f : SetupFile) : Option SetupFault :=
  if f.services.isEmpty then some .noServices
  else match firstFault? [] f.services with
    | some fault => some fault
    | none => if (f.services.filter (·.isDefault)).length > 1 then some .manyDefaults else none

/-- Accepts services that can be run and told apart. -/
def validate (f : SetupFile) : Except SetupFault Unit :=
  match f.fault? with
  | some fault => .error fault
  | none => .ok ()

/-- Reads a setup file without validating it. -/
def ofJson? (v : Json.Value) : Option SetupFile := do
  match ← v.fields? [("services", .required)] with
  | [some services] => return ⟨← services.list? ServiceConfig.ofJson?⟩
  | _ => none

/-- The text as a valid setup file. -/
def ofText (text : String) (file : Path) : Except Fault SetupFile :=
  match (Json.parse? text).bind ofJson? with
  | none => .error (.badSetup file .malformed)
  | some setup =>
    match setup.validate with
    | .error cause => .error (.badSetup file cause)
    | .ok () => .ok setup

/-- The services as a document. -/
def toJson (f : SetupFile) : Json.Value :=
  .object [("services", .arr (f.services.map (·.toJson)))]

/-- The setup file as it is written. -/
def text (f : SetupFile) : String := f.toJson.pretty

/-- The service of a name. -/
def service? (f : SetupFile) (name : String) : Option ServiceConfig :=
  f.services.find? (·.name == name)

/-- The service meant when no name is given: the default, or else the only one. -/
def defaultService? (f : SetupFile) : Option ServiceConfig :=
  match f.services.find? (·.isDefault) with
  | some s => some s
  | none => match f.services with
    | [s] => some s
    | _ => none

/-- The names of the services, in order. -/
def names (f : SetupFile) : List String := f.services.map (·.name)

/-- The services with one more at the end; a new default is the only default. -/
def add (f : SetupFile) (s : ServiceConfig) : SetupFile :=
  let kept := if s.isDefault then f.services.map fun o => { o with isDefault := false }
    else f.services
  ⟨kept ++ [s]⟩

end SetupFile

end Overseer
