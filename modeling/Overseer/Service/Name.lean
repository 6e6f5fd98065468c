/-
Overseer.Service.Name — names of services and the keys that tell launches apart.

A service is known by its name within its project: two projects may both have
a service `web`. The key joins the two, and records, output and ports are kept
under it.
-/
import Overseer.Path

namespace Overseer

/-- May stand in the name of a service: an ASCII letter or digit, or one of `.`, `_`, `-`. -/
def isNameChar (c : Char) : Bool := c.isAlphanum || c == '.' || c == '_' || c == '-'

/-- A name that a service may have. -/
def isServiceName (name : String) : Bool := !name.isEmpty && name.toList.all isNameChar

/-- A service of a project, the project being the directory of its setup file. -/
structure ServiceKey where
  service : String
  project : Path
deriving DecidableEq, Repr, Inhabited

/-- The key as messages show it. -/
def ServiceKey.text (key : ServiceKey) : String := s!"{key.service} ({key.project.text})"

end Overseer
