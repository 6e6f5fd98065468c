/-
Overseer.Store.Ports — the port that each project asked for.

A project has one assigned port at most; assigning another replaces it. The
table is kept in the order of the projects' names.
-/
import Overseer.Store.Basic

namespace Overseer.Store

/-- The port assigned to a project. -/
def assignedPort? (s : Store) (project : Path) : Option Nat :=
  (s.ports.find? fun r => r.project == project).bind fun r => fits? 16 r.port

/-- Puts an assignment at the place of its project's name. -/
def insertPortRow (row : PortRow) : List PortRow → List PortRow
  | [] => [row]
  | r :: rows =>
    if r.project.text < row.project.text then r :: insertPortRow row rows else row :: r :: rows

/-- Assigns a port to a project. -/
def assignPort (s : Store) (project : Path) (port : Nat) : Store :=
  { s with ports := insertPortRow ⟨project, port⟩ (s.ports.filter fun r => r.project != project) }

/-- Stores a row as it is. -/
def insertPort (s : Store) (project : Path) (port : Int) : Except StoreFault Store :=
  if s.ports.any fun r => r.project == project then .error (.keyTaken "project_ports.project_dir")
  else .ok { s with ports := insertPortRow ⟨project, port⟩ s.ports }

/-- Every assignment, in the order of the projects' names. -/
def assignedPorts (s : Store) : List (Path × Nat) :=
  s.ports.filterMap fun r => (fits? 16 r.port).map fun p => (r.project, p)

end Overseer.Store
