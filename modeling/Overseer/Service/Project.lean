/-
Overseer.Service.Project — a setup file in its directory.

The project of a directory is found by going up from it to the nearest setup
file. The directory is read by its normal form and not by asking the disk, so
every spelling of it leads to the same project. A setup file that is not valid
is reported and never passed over in favour of an outer one.
-/
import Overseer.FileTree
import Overseer.Service.Setup

namespace Overseer

open Launch (Environment)

/-- A service ready to be launched. -/
structure ResolvedService where
  name : String
  shell : String
  directory : Path
  environment : Environment
  wantsPort : Bool
  project : Path
deriving DecidableEq, Inhabited

/-- The key of the service. -/
def ResolvedService.key (s : ResolvedService) : ServiceKey := ⟨s.name, s.project⟩

/-- A setup file and the directory that holds it. -/
structure Project where
  file : Path
  directory : Path
  setup : SetupFile
deriving Inhabited

/-- The file's valid content. -/
def SetupFile.load (tree : FileTree) (file : Path) : Except Fault SetupFile :=
  if !tree.exists? file then .error (.noSetup file)
  else match tree.read file with
    | .error cause => .error (.failedIo cause)
    | .ok text => SetupFile.ofText text file

namespace Project

/-- The setup file of a directory. -/
def fileIn (directory : Path) : Path := directory.join ⟨setupFileName⟩

/-- The project of the first of the given directories that holds a setup file. -/
def nearest (tree : FileTree) : List Path → Except Fault (Option Project)
  | [] => .ok none
  | directory :: rest =>
    if tree.isFile (fileIn directory) then
      match SetupFile.load tree (fileIn directory) with
      | .error fault => .error fault
      | .ok setup => .ok (some ⟨fileIn directory, directory, setup⟩)
    else nearest tree rest

/-- The project to which a directory belongs. -/
def find (tree : FileTree) (start : Path) : Except Fault (Option Project) :=
  nearest tree (tree.workingDirectory.absolute start).ancestors

/-- The project to which a directory belongs, which has to exist. -/
def discover (tree : FileTree) (start : Path) : Except Fault Project :=
  match find tree start with
  | .error fault => .error fault
  | .ok none => .error (.noSetup start)
  | .ok (some project) => .ok project

/-- Where a service runs: in its root below the project, or in the project itself. -/
def serviceDirectory (p : Project) (s : ServiceConfig) : Path :=
  match s.root with
  | some root => (p.directory.join root).normalize
  | none => p.directory

/-- A configured service, ready to be launched. -/
def resolveConfig (p : Project) (s : ServiceConfig) : ResolvedService where
  name := s.name
  shell := s.shell
  directory := p.serviceDirectory s
  environment := s.environment
  wantsPort := s.wantsPort
  project := p.directory

/-- The service of a name, or without a name the default service. -/
def resolve (p : Project) : Option String → Except Fault ResolvedService
  | some name =>
    match p.setup.service? name with
    | some s => .ok (p.resolveConfig s)
    | none => .error (.unknownService name p.file)
  | none =>
    match p.setup.defaultService? with
    | some s => .ok (p.resolveConfig s)
    | none => .error (.noDefaultService p.file)

/-- Every service, in the order of the setup file. -/
def resolveAll (p : Project) : List ResolvedService := p.setup.services.map p.resolveConfig

/-- Puts a service behind what is configured in a file, and writes the whole again. -/
def extendSetup (file : Path) (setup : SetupFile) (s : ServiceConfig) :
    ExceptT Fault (StateM FileTree) Path := do
  let tree ← get
  if (setup.service? s.name).isSome then throw (.serviceExists s.name)
  else
    let setup := setup.add s
    match setup.validate with
    | .error cause => throw (.badSetup file cause)
    | .ok () =>
      match tree.write file (setup.text ++ "\n") with
      | .error cause => throw (.failedIo cause)
      | .ok after =>
        set after
        return file

/-- Adds a service to the nearest setup file, or to a new one in the directory. Gives
the file's path. -/
def insertService (directory : Path) (s : ServiceConfig) :
    ExceptT Fault (StateM FileTree) Path := do
  let tree ← get
  let directory := tree.workingDirectory.absolute directory
  match find tree directory with
  | .error fault => throw fault
  | .ok none => extendSetup (fileIn directory) ⟨[]⟩ s
  | .ok (some project) => extendSetup project.file project.setup s

/-- What adding a service comes to: the file's path and the tree with the file written,
or why it was not written. -/
def addService (tree : FileTree) (directory : Path) (s : ServiceConfig) :
    Except Fault (Path × FileTree) :=
  let (answer, after) := (insertService directory s).run.run tree
  answer.map fun file => (file, after)

end Project

end Overseer
