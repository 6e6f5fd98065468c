/-
Overseer.Store.Basic — what is kept of launches, output and ports.

The store has three tables. Rows hold plain 64-bit integers, as they may have
been written by anyone; reading a row gives a record, and what does not fit the
record's types is read as missing. Launches and lines are numbered, and a
number is used once: the highest number given out is kept even when its row is
gone. Both tables are kept newest first, that is by falling number.
-/
import Overseer.Record.Log
import Overseer.Record.Process
import Overseer.Word

namespace Overseer

/-- A launch as it is stored. It is running if `running` is 1. -/
structure LaunchRow where
  id : Int
  key : ServiceKey
  command : String
  directory : Path
  pid : Int
  wrapperPid : Option Int
  port : Option Int
  start : Int
  finish : Option Int
  running : Int
  exitCode : Option Int
deriving DecidableEq, Inhabited

/-- A line of output as it is stored. -/
structure OutputRow where
  id : Int
  launch : Int
  key : ServiceKey
  line : Int
  content : String
  type : String
  time : Int
deriving DecidableEq, Inhabited

/-- The port assigned to a project, as it is stored. -/
structure PortRow where
  project : Path
  port : Int
deriving DecidableEq, Inhabited

/-- The three tables, with the highest numbers given out. -/
structure Store where
  launches : List LaunchRow
  output : List OutputRow
  ports : List PortRow
  lastLaunch : Int
  lastOutput : Int
  /-- Pids of children are refused. -/
  rejectsPids : Bool
deriving DecidableEq, Inhabited

/-- A store that was never written to. -/
def Store.empty : Store := ⟨[], [], [], 0, 0, false⟩

/-! ## 1. Reading rows -/

/-- An integer as a number of so many bits without sign, if it is one. -/
def fits? (bits : Nat) (i : Int) : Option Nat :=
  if 0 ≤ i ∧ i < Word.size bits then some i.toNat else none

namespace LaunchRow

/-- Counts as running. -/
def isActive (r : LaunchRow) : Bool := r.running == 1

/-- The row as a record. -/
def record (r : LaunchRow) : ProcessRecord where
  id := r.id
  service := r.key.service
  command := r.command
  directory := r.directory
  project := r.key.project
  pid := (fits? 32 r.pid).getD 0
  wrapperPid := r.wrapperPid.bind (fits? 32)
  port := r.port.bind (fits? 16)
  start := r.start
  finish := r.finish
  running := r.running != 0
  exitCode := r.exitCode.map fun c => Word.wrap 32 c

end LaunchRow

/-- The row as a record; fails if the type has no such name. -/
def OutputRow.record (r : OutputRow) : Except StoreFault LogRecord := do
  return {
    id := r.id
    launch := r.launch
    service := r.key.service
    project := r.key.project
    line := r.line
    content := r.content
    type := ← LogType.ofText r.type
    time := r.time }

/-! ## 2. Numbers -/

/-- The highest number there is. -/
def lastNumber : Int := Word.greatest 64

/-- The number after the last one given out. -/
def nextNumber (last : Int) : Except StoreFault Int :=
  if last < lastNumber then .ok (last + 1) else .error .full

/-- Puts a row at the place of its number, higher numbers first. -/
def insertRow {α : Type} (number : α → Int) (row : α) : List α → List α
  | [] => [row]
  | r :: rows =>
    if number r < number row then row :: r :: rows else r :: insertRow number row rows

end Overseer
