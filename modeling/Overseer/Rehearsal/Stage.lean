/-
Overseer.Rehearsal.Stage — a platform whose every answer is laid down beforehand.

The stage holds the processes, the ports, the directories and the behaviour of
the wrappers that are started. Other parties act through hooks: when a process
is asked about for the n-th time, what its hook says is done first. What a hook
can do is left open; the platform is given a way to do it.
-/
import Overseer.FileTree
import Overseer.Rehearsal.Ports
import Overseer.Rehearsal.Processes
import Overseer.Rehearsal.Calls
import Overseer.Supervisor.World

namespace Overseer.Rehearsal

open Supervisor (Act Platform World Wrapper)

/-- What others do when a process is asked about for the n-th time. -/
structure Hook (ι : Type) where
  pid : Nat
  nth : Nat
  deeds : List ι

/-- What a started wrapper comes to. -/
inductive WrapperEnd where
  | reports
  | hangs
  | exits (code : Int)
  | isMissing
deriving DecidableEq

/-- The behaviour of the wrappers. The n-th one has its pids raised by n. -/
structure WrapperScript (ι : Type) where
  ending : WrapperEnd
  pid : Nat
  wrapperPid : Nat
  deeds : List ι

/-- What is laid down, and what has come of it. -/
structure Stage (ι : Type) where
  cast : Cast
  ports : PortTable
  calls : CallTable
  tree : FileTree
  hooks : List (Hook ι)
  asked : List Nat
  cancelled : Bool
  wrapper : WrapperScript ι
  payloads : List Launch.Payload

variable {ι : Type}

/-- Where nothing happens. -/
def Stage.bare (tree : FileTree) : Stage ι where
  cast := []
  ports := []
  calls := ⟨[], []⟩
  tree := tree
  hooks := []
  asked := []
  cancelled := false
  wrapper := ⟨.isMissing, 0, 0, []⟩
  payloads := []

/-- Changes the stage of a world. -/
def onStage {α : Type} (f : Stage ι → α × Stage ι) : StateM (World (Stage ι)) α := fun w =>
  let (a, stage) := f w.outside
  (a, { w with outside := stage })

/-- The processes of a stage. -/
def onCast {α : Type} (f : StateM Cast α) : StateM (World (Stage ι)) α :=
  onStage fun s => let (a, cast) := f s.cast; (a, { s with cast })

/-- The ports of a stage. -/
def onPorts {α : Type} (f : StateM PortTable α) : StateM (World (Stage ι)) α :=
  onStage fun s => let (a, ports) := f s.ports; (a, { s with ports })

/-- The system calls of a stage. -/
def onCalls {α : Type} (f : StateM CallTable α) : StateM (World (Stage ι)) α :=
  onStage fun s => let (a, calls) := f s.calls; (a, { s with calls })

/-- The watcher has not stopped. -/
def goesOn : StateM (World (Stage ι)) Bool := onStage fun s => (!s.cancelled, s)

/-- Does things in order. -/
def doAll (act : ι → StateM (World (Stage ι)) Unit) : List ι → StateM (World (Stage ι)) Unit
  | [] => return
  | deed :: rest => do
    act deed
    doAll act rest

/-- Counts a question about a process and gives what its hooks say. -/
def dueDeeds (pid : Nat) : StateM (World (Stage ι)) (List ι) := onStage fun s =>
  let asked := pid :: s.asked
  let due := s.hooks.filter fun h => h.pid == pid && h.nth == asked.count pid
  (due.flatMap (·.deeds), { s with asked })

/-- Why no wrapper can be started: it is to start in the directory before its program is
looked for. -/
def obstacle? (s : Stage ι) (payload : Launch.Payload) : Option IoFault :=
  if FileTree.holdsNul payload.directory then some .holdsNul
  else match s.tree.lookup payload.directory with
    | .error e => some (.os e)
    | .ok (.file ..) => some (.os .notDirectory)
    | .ok (.vacant _) => some (.os .noEntry)
    | .ok (.directory _) =>
      if s.wrapper.ending = .isMissing then some (.os .noEntry) else none

/-- Lets a wrapper do what it is there for. -/
def enact (act : ι → StateM (World (Stage ι)) Unit) (payload : Launch.Payload) :
    StateM (World (Stage ι)) Wrapper := do
  let stage := (← get).outside
  let n := stage.payloads.length
  set { (← get) with outside := { stage with payloads := payload :: stage.payloads } }
  doAll act stage.wrapper.deeds
  let wrapperPid := stage.wrapper.wrapperPid + n
  modify fun w => { w with store := w.store.updateWrapperPid payload.launch wrapperPid }
  if stage.wrapper.ending = .reports then
    modify fun w =>
      match w.store.updatePid payload.launch (stage.wrapper.pid + n) with
      | .ok store => { w with store }
      | .error _ => w
  return ⟨wrapperPid⟩

/-- Starts a wrapper, if nothing is in the way. -/
def start (act : ι → StateM (World (Stage ι)) Unit) (program : Path)
    (payload : Launch.Payload) : Act (Stage ι) Wrapper := do
  match obstacle? (← get).outside payload with
  | some e => throw (.startFailed (.wrapper program e))
  | none => enact act payload

/-- The platform of a stage; `act` does what hooks and wrappers say. -/
def platform (act : ι → StateM (World (Stage ι)) Unit) : Platform (Stage ι) where
  isAlive := fun pid => do
    doAll act (← dueDeeds pid)
    onCast (askAlive pid)
  signal := fun pid s => onCast (deliver pid s)
  killTree := fun pid s => onCast (deliver pid s)
  portIsFree := fun port => onPorts (portIsFree port)
  spawn := start act
  exited? := fun _ => do
    match (← get).outside.wrapper.ending with
    | .exits code => return some (some (Int.emod code 256))
    | _ => return none
  sleep := fun _ => return

/-- The same platform with the system call in place of listed reactions. -/
def callPlatform (act : ι → StateM (World (Stage ι)) Unit) : Platform (Stage ι) :=
  { platform act with
    isAlive := fun pid => onCalls (CallTable.kernel.isAlive pid)
    signal := fun pid s => onCalls ((CallTable.kernel.signal pid s).run)
    killTree := fun pid s => onCalls ((CallTable.kernel.killTree pid s).run) }

end Overseer.Rehearsal
